import Mathlib.Data.List.Perm.Subperm
import Mathlib.Data.Nat.Bitwise
import Zynk.Pane.Graphics

/-!
# Sound slots

The slots of the pane graphics in any run of the requests. Their image ids are distinct and lie in
the upper half of the 32 bits, where `reserve_image_id` goes round : it looks at one id more than
there are slots, so one that it looks at is free (`Runtime.Sound.reserveImageId`). The limits hold
because every request that adds a slot or an image has checked them.

What one request does is framed by its layer (`Framed`) : the other slots stay, and no flag but
that of the layer's stream is lowered. So a slot with an active stream changes only by its owner,
or with its pane or the feature (`graphics_slots_sound`).
-/

namespace Zynk.Pane.Graphics

open StepRun Text

/-! ## Image ids -/

/-- The ids with bit 31 : those of `reserve_image_id`. -/
def IsHostId (id : ℕ) : Prop :=
  2 ^ 31 ≤ id ∧ id < 2 ^ 32

theorem isHostId_add_mod (n : ℕ) : IsHostId (2 ^ 31 + n % 2 ^ 31) := by
  unfold IsHostId
  omega

theorem IsHostId.testBit {id : ℕ} (h : IsHostId id) : id.testBit 31 = true :=
  Nat.testBit_of_two_pow_le_and_two_pow_add_one_gt h.1 h.2

theorem or_hostBit {m : ℕ} (h : m < 2 ^ 31) : (2 ^ 31 + m) ||| 2 ^ 31 = 2 ^ 31 + m := by
  have hor := Nat.two_pow_add_eq_or_of_lt h 1
  rw [mul_one] at hor
  rw [hor, Nat.or_comm, ← Nat.or_assoc, Nat.or_self]

/-- The counter goes on by one, and from the last id to the first. -/
theorem nextHostId {m : ℕ} (h : m < 2 ^ 31) :
    (2 ^ 31 + m + 1) % 2 ^ 32 ||| 2 ^ 31 = 2 ^ 31 + (m + 1) % 2 ^ 31 := by
  by_cases hlast : m + 1 < 2 ^ 31
  · rw [Nat.mod_eq_of_lt (by omega), add_assoc, or_hostBit hlast, Nat.mod_eq_of_lt hlast]
  · have hm : m = 2 ^ 31 - 1 := by omega
    subst hm
    rfl

namespace Runtime

def hostIds (self : Runtime) : List ℕ :=
  self.slots.entries.map fun entry => entry.2.hostImageId

theorem mem_hostIds {self : Runtime} {id : ℕ} :
    id ∈ self.hostIds ↔ ∃ key slot, self.slots.lookup key = some slot ∧ slot.hostImageId = id := by
  simp only [hostIds, List.mem_map]
  constructor
  · rintro ⟨⟨key, slot⟩, hmem, hid⟩
    exact ⟨key, slot, AList.mem_lookup_iff.2 hmem, hid⟩
  · rintro ⟨key, slot, hlookup, hid⟩
    exact ⟨⟨key, slot⟩, AList.mem_lookup_iff.1 hlookup, hid⟩

/-- The loop finds a free id, or all the ids it looked at are taken. -/
theorem reserveLoop_cases (turns : ℕ) {self : Runtime} {m : ℕ} (hm : m < 2 ^ 31)
    (hnext : self.nextHostImageId = 2 ^ 31 + m) :
    (∃ id next, reserveLoop turns self = (some id, { self with nextHostImageId := next }) ∧
      id ∉ self.hostIds ∧ IsHostId id ∧ IsHostId next) ∨
    ∀ i < turns, 2 ^ 31 + (m + i) % 2 ^ 31 ∈ self.hostIds := by
  induction turns generalizing self m with
  | zero => exact Or.inr fun i hi => absurd hi (Nat.not_lt_zero i)
  | succ turns ih =>
    have hid : self.nextHostImageId ||| 2 ^ 31 = 2 ^ 31 + m := by rw [hnext, or_hostBit hm]
    rw [reserveLoop]
    simp only [hid, nextHostId hm]
    split
    · rename_i hfree
      refine Or.inl ⟨_, _, rfl, ?_, ⟨by omega, by omega⟩, isHostId_add_mod _⟩
      simp only [hostIds, List.mem_map, not_exists, not_and]
      intro entry hentry
      simpa using List.all_eq_true.1 hfree entry hentry
    · rename_i htaken
      have hfirst : 2 ^ 31 + m ∈ self.hostIds := by
        obtain ⟨entry, hentry, hid⟩ : ∃ entry ∈ self.slots.entries,
            entry.2.hostImageId = 2 ^ 31 + m := by
          simpa using htaken
        exact List.mem_map.2 ⟨entry, hentry, hid⟩
      rcases @ih { self with nextHostImageId := 2 ^ 31 + (m + 1) % 2 ^ 31 } _
        (Nat.mod_lt (m + 1) (by omega)) rfl with hfound | hall
      · exact Or.inl hfound
      · refine Or.inr fun i hi => ?_
        rcases i with _ | i
        · rwa [add_zero, Nat.mod_eq_of_lt hm]
        · have hnextId := hall i (by omega)
          rwa [Nat.mod_add_mod, add_assoc, add_comm 1 i] at hnextId

/-! ## Sound slots -/

theorem slotCount_eq_length (self : Runtime) : self.slotCount = self.slots.entries.length := by
  simp [slotCount, Assoc.total]

/-- The image ids are distinct and the limits hold. -/
structure Sound (runtime : Runtime) : Prop where
  distinct : ∀ {j k s t}, runtime.slots.lookup j = some s → runtime.slots.lookup k = some t →
    s.hostImageId = t.hostImageId → j = k
  hostId : ∀ {k s}, runtime.slots.lookup k = some s → IsHostId s.hostImageId
  next : IsHostId runtime.nextHostImageId
  slotCount_le : runtime.slotCount ≤ maxLayersTotal
  layerCount_le : ∀ pane, runtime.layerCount pane ≤ maxLayersPerPane
  inlineBytes_le : runtime.inlineBytes ≤ maxInlineBytesTotal

theorem sound_empty : Sound {} where
  distinct := by simp
  hostId := by simp
  next := ⟨le_rfl, by decide⟩
  slotCount_le := Nat.zero_le _
  layerCount_le := fun _ => Nat.zero_le _
  inlineBytes_le := Nat.zero_le _

variable {self next : Runtime}

/-- Slots may go. -/
theorem Sound.of_le (h : self.Sound)
    (hlookup : ∀ {k s}, next.slots.lookup k = some s → self.slots.lookup k = some s)
    (htotal : ∀ f, Assoc.total f next.slots ≤ Assoc.total f self.slots)
    (hnext : next.nextHostImageId = self.nextHostImageId) : next.Sound where
  distinct hs ht := h.distinct (hlookup hs) (hlookup ht)
  hostId hs := h.hostId (hlookup hs)
  next := hnext ▸ h.next
  slotCount_le := (htotal _).trans h.slotCount_le
  layerCount_le pane := (htotal _).trans (h.layerCount_le pane)
  inlineBytes_le := (htotal _).trans h.inlineBytes_le

/-- There is always a free id : more of them are looked at than there are slots. -/
theorem Sound.reserveImageId (h : self.Sound) (key : Key) :
    ∃ id next, self.reserveImageId key = (some id, { self with nextHostImageId := next }) ∧
      IsHostId next ∧ IsHostId id ∧
      ∀ k s, self.slots.lookup k = some s → (s.hostImageId = id ↔ k = key) := by
  rw [Runtime.reserveImageId]
  cases hkey : self.slots.lookup key with
  | some slot =>
    refine ⟨slot.hostImageId, self.nextHostImageId, rfl, h.next, h.hostId hkey, fun k s hs => ?_⟩
    refine ⟨h.distinct hs hkey, fun hk => ?_⟩
    rw [hk, hkey] at hs
    rw [Option.some.inj hs]
  | none =>
    obtain ⟨m, hm⟩ : ∃ m, self.nextHostImageId = 2 ^ 31 + m := Nat.exists_eq_add_of_le h.next.1
    have hlt : m < 2 ^ 31 := by
      have := h.next.2
      omega
    rcases reserveLoop_cases (self.slots.entries.length + 1) hlt hm with
      ⟨id, next, heq, hfree, hid, hnext⟩ | hall
    · refine ⟨id, next, heq, hnext, hid, fun k s hs => ?_⟩
      refine ⟨fun hsid => absurd (mem_hostIds.2 ⟨k, s, hs, hsid⟩) hfree, fun hk => ?_⟩
      rw [hk, hkey] at hs
      exact absurd hs (by simp)
    · exfalso
      have hcount := h.slotCount_le
      rw [slotCount_eq_length, maxLayersTotal] at hcount
      -- The ids that were looked at are distinct, and one more than there are slots.
      have hnodup : ((List.range (self.slots.entries.length + 1)).map fun i =>
          2 ^ 31 + (m + i) % 2 ^ 31).Nodup := by
        refine List.Nodup.map_on (fun i hi j hj hij => ?_) List.nodup_range
        rw [List.mem_range] at hi hj
        omega
      have hsubset : (List.range (self.slots.entries.length + 1)).map (fun i =>
          2 ^ 31 + (m + i) % 2 ^ 31) ⊆ self.hostIds := by
        intro id hid
        obtain ⟨i, hi, rfl⟩ := List.mem_map.1 hid
        exact hall i (List.mem_range.1 hi)
      have hle := (hnodup.subperm hsubset).length_le
      simp only [hostIds, List.length_map, List.length_range] at hle
      omega

/-- A slot is put where the limits allow it. -/
theorem Sound.insert (h : self.Sound) {key : Key} {slot : Slot}
    (hslots : next.slots = self.slots.insert key slot) (hnext : IsHostId next.nextHostImageId)
    (hid : IsHostId slot.hostImageId)
    (hfree : ∀ k s, self.slots.lookup k = some s → (s.hostImageId = slot.hostImageId ↔ k = key))
    (hcount : self.slots.lookup key = none →
      self.slotCount < maxLayersTotal ∧ self.layerCount key.1 < maxLayersPerPane)
    (hbytes : self.inlineBytes - ((self.slots.lookup key).map Slot.inlineLen).getD 0 +
      slot.inlineLen ≤ maxInlineBytesTotal) : next.Sound := by
  have hlookup : ∀ {k s}, next.slots.lookup k = some s →
      k = key ∧ s = slot ∨ k ≠ key ∧ self.slots.lookup k = some s := by
    intro k s hs
    rw [hslots] at hs
    by_cases hk : k = key
    · subst hk
      rw [AList.lookup_insert] at hs
      exact Or.inl ⟨rfl, (Option.some.inj hs).symm⟩
    · rw [AList.lookup_insert_ne hk] at hs
      exact Or.inr ⟨hk, hs⟩
  have htotal : ∀ f, Assoc.total f next.slots + ((self.slots.lookup key).map (f key)).getD 0 =
      f key slot + Assoc.total f self.slots := by
    intro f
    have := Assoc.total_erase f self.slots key
    rw [hslots, Assoc.total_insert]
    omega
  constructor
  · intro j k s t hs ht hst
    rcases hlookup hs with ⟨rfl, rfl⟩ | ⟨hj, hs⟩ <;> rcases hlookup ht with ⟨rfl, rfl⟩ | ⟨hk, ht⟩
    · rfl
    · exact ((hfree k t ht).1 hst.symm).symm
    · exact (hfree j s hs).1 hst
    · exact h.distinct hs ht hst
  · intro k s hs
    rcases hlookup hs with ⟨-, rfl⟩ | ⟨-, hs⟩
    · exact hid
    · exact h.hostId hs
  · exact hnext
  · have hsum := htotal fun _ _ => 1
    have hle := h.slotCount_le
    rw [slotCount] at hle ⊢
    cases hkey : self.slots.lookup key with
    | some old =>
      simp only [hkey, Option.map_some, Option.getD_some] at hsum
      omega
    | none =>
      have hlt := (hcount hkey).1
      rw [slotCount] at hlt
      simp only [hkey, Option.map_none, Option.getD_none] at hsum
      omega
  · intro pane
    have hsum := htotal fun k _ => if k.1 = pane then 1 else 0
    have hle := h.layerCount_le pane
    rw [layerCount] at hle ⊢
    cases hkey : self.slots.lookup key with
    | some old =>
      simp only [hkey, Option.map_some, Option.getD_some] at hsum
      omega
    | none =>
      have hlt := (hcount hkey).2
      rw [layerCount] at hlt
      simp only [hkey, Option.map_none, Option.getD_none] at hsum
      split at hsum
      · rename_i hpane
        rw [hpane] at hlt
        omega
      · omega
  · have hsum : next.inlineBytes + ((self.slots.lookup key).map Slot.inlineLen).getD 0 =
        slot.inlineLen + self.inlineBytes := htotal fun _ s => s.inlineLen
    omega

end Runtime

/-! ## What one event does -/

/-- The slot of a stream that has ended. -/
def Stale (self : App) (slot : Slot) : Prop :=
  slot.streamOwner.isSome = true ∧ self.streamIsActive slot = false

/-- A request of the owner of a stream about its layer. -/
def ByOwner (owner : String) (key : Key) : GraphicsEvent → Prop
  | .streamSet pane params | .streamDirect pane params _ _ | .streamClose pane params =>
    params.owner = owner ∧ layerKey pane params.paneId params.layerId = .ok key
  | _ => False

/-- A request that takes the layer of a stream that has ended. -/
def Reclaims (key : Key) : GraphicsEvent → Prop
  | .set pane params | .clear pane params | .streamOpen pane params _ =>
    layerKey pane params.paneId params.layerId = .ok key
  | _ => False

/-- An event that takes the pane of the layer or the feature. -/
def Removes (self : App) (key : Key) : GraphicsEvent → Prop
  | .retainLivePanes => key.1 ∉ self.panes
  | .syncPaneGraphicsStreams => key.1 ∉ self.panes ∨ self.kittyGraphicsEnabled = false
  | .setEnabled enabled => enabled = false
  | _ => False

/-- The slots behind an event that was answered `reply`. -/
structure Keeps (before : App) (event : GraphicsEvent)
    (reply : Option (Except GraphicsError GraphicsReply)) (after : App) : Prop where
  /-- A slot keeps its image id. -/
  hostImageId : ∀ key s t, before.slot? key = some s → after.slot? key = some t →
    t.hostImageId = s.hostImageId ∨ Stale before s ∧ Reclaims key event
  /-- A slot with an active stream stays, and its stream stays active unless its connection ends. -/
  owned : ∀ key s, before.slot? key = some s → before.streamIsActive s = true →
    (after.slot? key = some s ∧
      (after.streamIsActive s = true ∨ ∃ flag, s.streamActive = some flag ∧
        event = .streamEnded flag)) ∨
    (∃ owner, s.streamOwner = some owner ∧ ByOwner owner key event) ∨ Removes before key event
  /-- An error leaves the slots, but for that of a stream that has ended. -/
  error : ∀ e, reply = some (.error e) → ∀ key, after.slot? key = before.slot? key ∨
    ∃ s, before.slot? key = some s ∧ Stale before s ∧ after.slot? key = none

/-! ## Sound states -/

/-- The slots are sound, and every stream has a flag of its own. -/
structure App.Sound (app : App) : Prop where
  runtime : app.paneGraphics.Sound
  made : ∀ {key slot flag}, app.slot? key = some slot → slot.streamActive = some flag →
    slot.streamOwner.isSome = true ∧ flag < app.flags
  apart : ∀ {j k s t flag}, app.slot? j = some s → app.slot? k = some t →
    s.streamActive = some flag → t.streamActive = some flag → j = k

namespace App

variable {self mid next : App} {key : Key}

theorem streamIsActive_iff {slot : Slot} :
    self.streamIsActive slot = true ↔ ∃ flag, slot.streamActive = some flag ∧ flag ∉ self.down := by
  unfold streamIsActive
  cases slot.streamActive <;> simp

/-- Slots may go. -/
theorem Sound.of_le (h : self.Sound)
    (hslot : ∀ {k s}, next.slot? k = some s → self.slot? k = some s)
    (htotal : ∀ f, Assoc.total f next.paneGraphics.slots ≤ Assoc.total f self.paneGraphics.slots)
    (hnext : next.paneGraphics.nextHostImageId = self.paneGraphics.nextHostImageId)
    (hflags : self.flags ≤ next.flags) : next.Sound where
  runtime := h.runtime.of_le hslot htotal hnext
  made hs hflag := ⟨(h.made (hslot hs) hflag).1, (h.made (hslot hs) hflag).2.trans_le hflags⟩
  apart hs ht := h.apart (hslot hs) (hslot ht)

theorem slot?_remove (k : Key) :
    (self.remove key).slot? k = if k = key then none else self.slot? k := by
  split
  · rename_i hk
    exact hk ▸ AList.lookup_erase key _
  · rename_i hk
    exact AList.lookup_erase_ne hk

theorem slot?_retain (keep : Key → Slot → Bool) (k : Key) :
    (self.retain keep).slot? k = (self.slot? k).filter (keep k) :=
  Assoc.lookup_filterWithKey keep _ k

theorem mem_down_retain {keep : Key → Slot → Bool} {flag : ℕ} :
    flag ∈ (self.retain keep).down ↔ flag ∈ self.down ∨ ∃ key slot, self.slot? key = some slot ∧
      keep key slot = false ∧ slot.streamActive = some flag := by
  simp only [retain, lower, List.mem_append, List.mem_filterMap, List.mem_filter, slot?]
  constructor
  · rintro (⟨⟨key, slot⟩, ⟨hmem, hkeep⟩, hflag⟩ | hdown)
    · exact Or.inr ⟨key, slot, AList.mem_lookup_iff.2 hmem, by simpa using hkeep, hflag⟩
    · exact Or.inl hdown
  · rintro (hdown | ⟨key, slot, hslot, hkeep, hflag⟩)
    · exact Or.inr hdown
    · exact Or.inl ⟨⟨key, slot⟩, ⟨AList.mem_lookup_iff.1 hslot, by simpa using hkeep⟩, hflag⟩

theorem Sound.remove (h : self.Sound) (key : Key) : (self.remove key).Sound := by
  refine h.of_le (fun {k s} hs => ?_) (fun f => Assoc.total_erase_le f _ key) rfl le_rfl
  rw [slot?_remove] at hs
  split at hs
  · exact absurd hs (by simp)
  · exact hs

theorem Sound.retain (h : self.Sound) (keep : Key → Slot → Bool) : (self.retain keep).Sound := by
  refine h.of_le (fun {k s} hs => ?_) (fun f => Assoc.total_filterWithKey_le f keep _) rfl le_rfl
  rw [slot?_retain] at hs
  exact (Option.filter_eq_some_iff.1 hs).1

theorem Sound.markChanged (h : self.Sound) : self.markChanged.Sound :=
  h.of_le id (fun _ => le_rfl) rfl le_rfl

/-! ## Frames of a layer -/

/-- Only the layer changed : the other slots stay, and of the flags that were there only that of the
layer's stream was lowered. -/
structure Framed (before : App) (key : Key) (after : App) : Prop where
  sound : after.Sound
  slot? : ∀ k, k ≠ key → after.slot? k = before.slot? k
  down : ∀ flag ∈ after.down, flag ∈ before.down ∨ before.flags ≤ flag ∨
    ∃ slot, before.slot? key = some slot ∧ slot.streamActive = some flag

/-- The slots stay, and no flag of a slot is lowered. -/
theorem Framed.of_slot? (h : next.Sound) (hslot : ∀ k, next.slot? k = self.slot? k)
    (hdown : ∀ flag ∈ next.down, flag ∈ self.down ∨ self.flags ≤ flag) (key : Key) :
    Framed self key next where
  sound := h
  slot? k _ := hslot k
  down flag hflag := (hdown flag hflag).imp_right Or.inl

/-- The streams of the other layers stay active. -/
theorem Framed.streamIsActive (h : self.Sound) (hframed : Framed self key next) {k : Key}
    (hk : k ≠ key) {slot : Slot} (hslot : self.slot? k = some slot)
    (hactive : self.streamIsActive slot = true) : next.streamIsActive slot = true := by
  obtain ⟨flag, hflag, hup⟩ := streamIsActive_iff.1 hactive
  refine streamIsActive_iff.2 ⟨flag, hflag, fun hdown => ?_⟩
  rcases hframed.down flag hdown with hdown | hnew | ⟨slot', hslot', hflag'⟩
  · exact hup hdown
  · exact absurd (h.made hslot hflag).2 (by omega)
  · exact hk (h.apart hslot hslot' hflag hflag')

/-- A request whose effect is framed keeps the slots if it keeps that of its layer. -/
theorem Framed.keeps (h : self.Sound) (hframed : Framed self key next) {event : GraphicsEvent}
    {reply : Option (Except GraphicsError GraphicsReply)}
    (hid : ∀ s t, self.slot? key = some s → next.slot? key = some t →
      t.hostImageId = s.hostImageId ∨ Stale self s ∧ Reclaims key event)
    (howned : ∀ s, self.slot? key = some s → self.streamIsActive s = true →
      (next.slot? key = some s ∧ next.streamIsActive s = true) ∨
      ∃ owner, s.streamOwner = some owner ∧ ByOwner owner key event)
    (herror : ∀ e, reply = some (.error e) → next.slot? key = self.slot? key ∨
      ∃ s, self.slot? key = some s ∧ Stale self s ∧ next.slot? key = none) :
    Keeps self event reply next where
  hostImageId k s t hs ht := by
    by_cases hk : k = key
    · subst hk
      exact hid s t hs ht
    · rw [hframed.slot? k hk, hs] at ht
      exact Or.inl (by rw [Option.some.inj ht])
  owned k s hs hactive := by
    by_cases hk : k = key
    · subst hk
      rcases howned s hs hactive with hstay | howner
      · exact Or.inl ⟨hstay.1, Or.inl hstay.2⟩
      · exact Or.inr (Or.inl howner)
    · refine Or.inl ⟨(hframed.slot? k hk).trans hs, Or.inl ?_⟩
      exact hframed.streamIsActive h hk hs hactive
  error e he k := by
    by_cases hk : k = key
    · subst hk
      exact herror e he
    · exact Or.inl (hframed.slot? k hk)

end App

/-! ## Images that fit -/

theorem bind_ok {ε α β : Type} {x : Except ε α} {f : α → Except ε β} {b : β} :
    (x >>= f) = .ok b ↔ ∃ a, x = .ok a ∧ f a = .ok b := by
  cases x <;> simp [bind, Except.bind]

theorem check_bind_ok {α : Type} {condition : Bool} {error : GraphicsError}
    {f : Unit → Except GraphicsError α} {a : α} :
    (check condition error >>= f) = .ok a ↔ condition = true ∧ f () = .ok a := by
  cases condition <;> simp [check, bind, Except.bind]

theorem swapPixels_length (data : Bytes) : (swapPixels data).length = data.length := by
  induction data using swapPixels.induct with
  | case1 b g r a rest ih => simp [swapPixels, ih]
  | case2 rest hrest =>
    rw [swapPixels]
    exact hrest

theorem canonicalizeBgra_length (format : PaneGraphicsFormat) (data : Bytes) :
    (canonicalizeBgra format data).2.length = data.length := by
  cases format with
  | bgra => exact swapPixels_length data
  | png | rgb | rgba => rfl

theorem copyRgba_length {file : FrameFile} {len : ℕ} {data : Bytes}
    (h : file.copyRgba len = .ok data) : data.length = len := by
  unfold FrameFile.copyRgba at h
  split at h
  · cases h
  · split at h
    · cases h
    · rename_i contents hcontents
      split at h
      · cases h
      · split at h
        · cases h
        · split at h
          · cases h
          · rw [← Except.ok.inj h]
            omega

/-- The limits allow a slot for the layer, and an image of `len` bytes in it. -/
def Fits (self : Runtime) (key : Key) (len : ℕ) : Prop :=
  (self.slots.lookup key = none →
    self.slotCount < maxLayersTotal ∧ self.layerCount key.1 < maxLayersPerPane) ∧
  self.inlineBytes - ((self.slots.lookup key).map Slot.inlineLen).getD 0 + len ≤
    maxInlineBytesTotal

theorem layerImage_fits {decodeSlice : Bytes → ℕ → Except DecodeSliceError Bytes} {self : Runtime}
    {key : Key} {params : PaneGraphicsSetParams} {format : PaneGraphicsFormat} {data : Bytes}
    (h : layerImage decodeSlice self key params = .ok (format, data)) :
    Fits self key data.length := by
  obtain ⟨hslots, h⟩ := check_bind_ok.1 h
  obtain ⟨-, h⟩ := check_bind_ok.1 h
  obtain ⟨expected, -, h⟩ := bind_ok.1 h
  obtain ⟨given, -, h⟩ := bind_ok.1 h
  obtain ⟨-, h⟩ := check_bind_ok.1 h
  obtain ⟨-, h⟩ := check_bind_ok.1 h
  obtain ⟨-, h⟩ := check_bind_ok.1 h
  obtain ⟨hstore, h⟩ := check_bind_ok.1 h
  obtain rfl : (canonicalizeBgra params.format given).2 = data :=
    congrArg Prod.snd (Except.ok.inj h)
  refine ⟨fun hnone => ?_, of_decide_eq_true hstore⟩
  simpa [Runtime.canAddSlot, hnone] using hslots

theorem directLayer_fits {self : App} {key : Key} {params : PaneGraphicsDirectParams}
    {file : FrameFile} {layer : Layer} (h : self.directLayer key params file = .ok layer)
    (hself : self.paneGraphics.Sound) :
    (∃ slot, self.slot? key = some slot ∧ slot.streamOwner = some params.owner) ∧
      Fits self.paneGraphics key layer.inlineLen := by
  obtain ⟨howner, h⟩ := check_bind_ok.1 h
  obtain ⟨-, h⟩ := check_bind_ok.1 h
  obtain ⟨-, h⟩ := check_bind_ok.1 h
  obtain ⟨len, -, h⟩ := bind_ok.1 h
  obtain ⟨-, -, h⟩ := bind_ok.1 h
  obtain ⟨hstore, h⟩ := check_bind_ok.1 h
  obtain ⟨backing, hbacking, h⟩ := bind_ok.1 h
  obtain ⟨slot, hslot, howner⟩ : ∃ slot, self.slot? key = some slot ∧
      slot.streamOwner = some params.owner := by
    obtain ⟨slot, hslot, howner⟩ := (Option.any_eq_true _ _).1 howner
    rw [Bool.and_eq_true, beq_iff_eq] at howner
    exact ⟨slot, hslot, howner.1⟩
  refine ⟨⟨slot, hslot, howner⟩, fun hnone => absurd (hslot.symm.trans hnone) (by simp), ?_⟩
  obtain rfl := Except.ok.inj h
  unfold App.directBacking at hbacking
  split at hbacking
  · -- A direct image has no inline bytes.
    obtain rfl := Except.ok.inj hbacking
    have := hself.inlineBytes_le
    simp only [Layer.inlineLen]
    omega
  · rename_i hdirect
    split at hbacking
    · cases hbacking
    · rename_i data hdata
      obtain rfl := Except.ok.inj hbacking
      simp only [Layer.inlineLen, canonicalizeBgra_length, copyRgba_length hdata]
      rw [Bool.eq_false_of_not_eq_true hdirect, Bool.false_or] at hstore
      exact of_decide_eq_true hstore

/-! ## Requests -/

namespace App

variable {self mid next : App} {key : Key} {event : GraphicsEvent}
  {reply : Option (Except GraphicsError GraphicsReply)}

/-- A slot is put into a layer, under the image id that the layer has or a new one. -/
theorem Sound.put (h : self.Sound) {slot : Slot}
    (hslots : next.paneGraphics.slots = self.paneGraphics.slots.insert key slot)
    (hnext : IsHostId next.paneGraphics.nextHostImageId) (hid : IsHostId slot.hostImageId)
    (hfree : ∀ k s, self.slot? k = some s → (s.hostImageId = slot.hostImageId ↔ k = key))
    (hfits : Fits self.paneGraphics key slot.inlineLen) (hflags : next.flags = self.flags)
    (hmade : ∀ flag, slot.streamActive = some flag →
      slot.streamOwner.isSome = true ∧ flag < self.flags)
    (hapart : ∀ flag k s, slot.streamActive = some flag → self.slot? k = some s →
      s.streamActive = some flag → k = key)
    (hdown : ∀ flag ∈ next.down, flag ∈ self.down ∨ self.flags ≤ flag ∨
      ∃ s, self.slot? key = some s ∧ s.streamActive = some flag) :
    Framed self key next ∧ ∀ s t, self.slot? key = some s → next.slot? key = some t →
      t.hostImageId = s.hostImageId := by
  have hkey : next.slot? key = some slot := by
    rw [App.slot?, hslots, AList.lookup_insert]
  have hother : ∀ k, k ≠ key → next.slot? k = self.slot? k := by
    intro k hk
    rw [App.slot?, hslots, AList.lookup_insert_ne hk]
    rfl
  have hslot : ∀ {k s}, next.slot? k = some s → k = key ∧ s = slot ∨ self.slot? k = some s := by
    intro k s hs
    by_cases hk : k = key
    · rw [hk, hkey] at hs
      exact Or.inl ⟨hk, (Option.some.inj hs).symm⟩
    · exact Or.inr (hother k hk ▸ hs)
  refine ⟨⟨⟨?_, ?_, ?_⟩, hother, hdown⟩, fun s t hs ht => ?_⟩
  · exact h.runtime.insert hslots hnext hid hfree hfits.1 hfits.2
  · intro k s flag hs hflag
    rw [hflags]
    rcases hslot hs with ⟨-, rfl⟩ | hs
    · exact hmade flag hflag
    · exact h.made hs hflag
  · intro j k s t flag hs ht hsflag htflag
    rcases hslot hs with ⟨rfl, rfl⟩ | hs <;> rcases hslot ht with ⟨rfl, rfl⟩ | ht
    · rfl
    · exact (hapart flag k t hsflag ht htflag).symm
    · exact hapart flag j s htflag hs hsflag
    · exact h.apart hs ht hsflag htflag
  · obtain rfl := Option.some.inj (hkey.symm.trans ht)
    exact ((hfree key s hs).2 rfl).symm

theorem Framed.trans (h : Framed self key mid) (h' : Framed mid key next)
    (hflags : self.flags ≤ mid.flags)
    (hkey : ∀ s, mid.slot? key = some s → self.slot? key = some s) : Framed self key next where
  sound := h'.sound
  slot? k hk := (h'.slot? k hk).trans (h.slot? k hk)
  down flag hflag := by
    rcases h'.down flag hflag with hmid | hnew | ⟨s, hs, hsflag⟩
    · exact h.down flag hmid
    · exact Or.inr (Or.inl (hflags.trans hnew))
    · exact Or.inr (Or.inr ⟨s, hkey s hs, hsflag⟩)

/-- The slots stay. -/
theorem Sound.keeps_of_slot? (h : self.Sound) (hnext : next.Sound)
    (hslot : ∀ k, next.slot? k = self.slot? k)
    (hdown : ∀ flag ∈ next.down, flag ∈ self.down ∨ self.flags ≤ flag) :
    Keeps self event reply next := by
  refine (Framed.of_slot? hnext hslot hdown (0, "")).keeps h (fun s t hs ht => ?_)
    (fun s hs hactive => Or.inl ⟨(hslot _).trans hs, ?_⟩) fun e _ => Or.inl (hslot _)
  · rw [hslot, hs] at ht
    exact Or.inl (by rw [Option.some.inj ht])
  · obtain ⟨flag, hflag, hup⟩ := streamIsActive_iff.1 hactive
    refine streamIsActive_iff.2 ⟨flag, hflag, fun hflagDown => ?_⟩
    rcases hdown flag hflagDown with hflagDown | hnew
    · exact hup hflagDown
    · exact absurd (h.made hs hflag).2 (by omega)

theorem Sound.keeps_refl (h : self.Sound) : Keeps self event reply self :=
  h.keeps_of_slot? h (fun _ => rfl) fun _ => Or.inl

theorem framed_refl (h : self.Sound) (key : Key) : Framed self key self :=
  Framed.of_slot? h (fun _ => rfl) (fun _ => Or.inl) key

/-- The slot of a layer is removed. -/
theorem framed_remove (h : self.Sound) (key : Key) :
    Framed self key (self.remove key).markChanged where
  sound := (h.remove key).markChanged
  slot? k hk := (slot?_remove k).trans (if_neg hk)
  down flag hflag := by
    rcases List.mem_append.1 hflag with hslot | hdown
    · rw [Option.mem_toList, Option.bind_eq_some_iff] at hslot
      exact Or.inr (Or.inr hslot)
    · exact Or.inl hdown

theorem slot?_remove_self (key : Key) : (self.remove key).markChanged.slot? key = none :=
  (slot?_remove key).trans (if_pos rfl)

/-! ### Reclaimed layers -/

/-- The slot of a stream that has ended is removed. -/
theorem reclaimInactiveStream_cases (self : App) (key : Key) :
    (∃ slot, self.slot? key = some slot ∧ Stale self slot ∧
      self.reclaimInactiveStream key = (self.remove key).markChanged) ∨
    self.reclaimInactiveStream key = self ∧
      ∀ slot, self.slot? key = some slot → ¬ Stale self slot := by
  unfold reclaimInactiveStream
  cases hslot : self.slot? key with
  | none => simp
  | some slot =>
    by_cases hstale : Stale self slot
    · refine Or.inl ⟨slot, rfl, hstale, ?_⟩
      simp [hstale.1, hstale.2]
    · refine Or.inr ⟨if_neg fun hany => hstale ?_, by simpa using hstale⟩
      simpa [Stale] using hany

theorem framed_reclaimInactiveStream (h : self.Sound) (key : Key) :
    Framed self key (self.reclaimInactiveStream key) := by
  rcases reclaimInactiveStream_cases self key with ⟨slot, -, -, heq⟩ | ⟨heq, -⟩ <;> rw [heq]
  · exact framed_remove h key
  · exact framed_refl h key

@[simp] theorem flags_reclaimInactiveStream (self : App) (key : Key) :
    (self.reclaimInactiveStream key).flags = self.flags := by
  rcases reclaimInactiveStream_cases self key with ⟨slot, -, -, heq⟩ | ⟨heq, -⟩
  · rw [heq]
    rfl
  · rw [heq]

/-- A slot that is left was there. -/
theorem slot?_of_reclaimInactiveStream {k : Key} {slot : Slot}
    (hslot : (self.reclaimInactiveStream key).slot? k = some slot) : self.slot? k = some slot := by
  rcases reclaimInactiveStream_cases self key with ⟨slot', -, -, heq⟩ | ⟨heq, -⟩
  · rw [heq] at hslot
    by_cases hk : k = key
    · rw [hk, slot?_remove_self] at hslot
      exact absurd hslot (by simp)
    · exact ((slot?_remove k).trans (if_neg hk)).symm.trans hslot
  · exact heq ▸ hslot

/-- A request that takes a layer without a stream. It begins with `reclaimInactiveStream`, and fails
and changes no more, or finds no stream and changes the layer under its image id. -/
theorem Sound.keeps_reclaimed (h : self.Sound) (hreclaims : Reclaims key event)
    {r : Except GraphicsError GraphicsReply × App}
    (hr : (∃ e, r = (.error e, self.reclaimInactiveStream key)) ∨
      (self.reclaimInactiveStream key).hasStream key = false ∧
      ∃ next, r = (.ok .ok, next) ∧ Framed (self.reclaimInactiveStream key) key next ∧
        ∀ s t, (self.reclaimInactiveStream key).slot? key = some s → next.slot? key = some t →
          t.hostImageId = s.hostImageId) :
    r.2.Sound ∧ Keeps self event (some r.1) r.2 := by
  have hmid := framed_reclaimInactiveStream h key
  rcases reclaimInactiveStream_cases self key with ⟨slot, hslot, hstale, heq⟩ | ⟨heq, -⟩
  · -- The stream has ended, and its slot is gone.
    have hnone : (self.reclaimInactiveStream key).slot? key = none := by
      rw [heq, slot?_remove_self]
    have hframed : Framed self key r.2 := by
      rcases hr with ⟨e, rfl⟩ | ⟨-, next, rfl, hnext, -⟩
      · exact hmid
      · exact hmid.trans hnext (by simp) fun s hs => absurd (hnone.symm.trans hs) (by simp)
    refine ⟨hframed.sound, hframed.keeps h (fun s t hs _ => ?_) (fun s hs hactive => ?_) ?_⟩
    · obtain rfl := Option.some.inj (hslot.symm.trans hs)
      exact Or.inr ⟨hstale, hreclaims⟩
    · obtain rfl := Option.some.inj (hslot.symm.trans hs)
      exact absurd (hstale.2.symm.trans hactive) (by simp)
    · intro e he
      rcases hr with ⟨e, rfl⟩ | ⟨-, next, rfl, -⟩
      · exact Or.inr ⟨slot, hslot, hstale, hnone⟩
      · exact absurd he (by simp)
  · rw [heq] at hr
    rcases hr with ⟨e, rfl⟩ | ⟨hstream, next, rfl, hframed, hid⟩
    · exact ⟨h, h.keeps_refl⟩
    · refine ⟨hframed.sound, hframed.keeps h (fun s t hs ht => Or.inl (hid s t hs ht))
        (fun s hs hactive => ?_) fun e he => absurd he (by simp)⟩
      -- A slot with an active stream has a stream.
      obtain ⟨flag, hflag, -⟩ := streamIsActive_iff.1 hactive
      rw [hasStream, hs, Option.any_some, (h.made hs hflag).1] at hstream
      exact absurd hstream (by simp)

/-! ### Layers that are set -/

variable {decodeSlice : Bytes → ℕ → Except DecodeSliceError Bytes}

/-- Setting a layer fails, or puts a slot with the image id that the layer has. -/
theorem setLayer_cases (decodeSlice : Bytes → ℕ → Except DecodeSliceError Bytes)
    (h : self.Sound) (key : Key) (params : PaneGraphicsSetParams) :
    (∃ e, self.setLayer decodeSlice key params = (.error e, self)) ∨
    ∃ next, self.setLayer decodeSlice key params = (.ok .ok, next) ∧ Framed self key next ∧
      ∀ s t, self.slot? key = some s → next.slot? key = some t →
        t.hostImageId = s.hostImageId := by
  unfold setLayer
  cases himage : layerImage decodeSlice self.paneGraphics key params with
  | error e => exact Or.inl ⟨e, rfl⟩
  | ok image =>
    obtain ⟨format, data⟩ := image
    obtain ⟨id, next, hreserve, hnext, hid, hfree⟩ := h.runtime.reserveImageId key
    simp only [hreserve]
    refine Or.inr ⟨_, rfl, h.put rfl hnext hid hfree (layerImage_fits himage) rfl
      (fun flag hflag => ?_) (fun flag k s hflag hs hsflag => ?_) fun flag => Or.inl⟩
    · obtain ⟨slot, hslot, hslotFlag⟩ := Option.bind_eq_some_iff.1 hflag
      obtain ⟨hisSome, hlt⟩ := h.made hslot hslotFlag
      obtain ⟨owner, howner⟩ := Option.isSome_iff_exists.1 hisSome
      have hbind : (self.slot? key).bind (·.streamOwner) = some owner :=
        Option.bind_eq_some_iff.2 ⟨slot, hslot, howner⟩
      exact ⟨Option.isSome_iff_exists.2 ⟨owner, hbind⟩, hlt⟩
    · obtain ⟨slot, hslot, hslotFlag⟩ := Option.bind_eq_some_iff.1 hflag
      exact h.apart hs hslot hsflag hslotFlag

theorem keeps_set (h : self.Sound) (pane : Option ℕ) (params : PaneGraphicsSetParams) :
    (self.handlePaneGraphicsSet decodeSlice pane params).2.Sound ∧
      Keeps self (.set pane params) (some (self.handlePaneGraphicsSet decodeSlice pane params).1)
        (self.handlePaneGraphicsSet decodeSlice pane params).2 := by
  unfold handlePaneGraphicsSet
  split
  · exact ⟨h, h.keeps_refl⟩
  · split
    · exact ⟨h, h.keeps_refl⟩
    · rename_i key hkey
      have hreclaims : Reclaims key (.set pane params) := hkey
      refine h.keeps_reclaimed hreclaims ?_
      dsimp only
      split
      · exact Or.inl ⟨_, rfl⟩
      · rename_i hstream
        have hcases := setLayer_cases decodeSlice
          (framed_reclaimInactiveStream h key).sound key params
        exact hcases.imp_right fun hset => ⟨Bool.eq_false_of_not_eq_true hstream, hset⟩

theorem keeps_clear (h : self.Sound) (pane : Option ℕ) (params : PaneGraphicsClearParams) :
    (self.handlePaneGraphicsClear pane params).2.Sound ∧
      Keeps self (.clear pane params) (some (self.handlePaneGraphicsClear pane params).1)
        (self.handlePaneGraphicsClear pane params).2 := by
  unfold handlePaneGraphicsClear
  split
  · exact ⟨h, h.keeps_refl⟩
  · split
    · exact ⟨h, h.keeps_refl⟩
    · rename_i key hkey
      have hreclaims : Reclaims key (.clear pane params) := hkey
      have hmid := (framed_reclaimInactiveStream h key).sound
      refine h.keeps_reclaimed hreclaims ?_
      dsimp only
      split
      · exact Or.inl ⟨_, rfl⟩
      · rename_i hstream
        refine Or.inr ⟨Bool.eq_false_of_not_eq_true hstream, ?_⟩
        split
        · refine ⟨_, rfl, framed_remove hmid key, fun s t hs ht => ?_⟩
          exact absurd ((slot?_remove_self key).symm.trans ht) (by simp)
        · refine ⟨_, rfl, framed_refl hmid key, fun s t hs ht => ?_⟩
          rw [Option.some.inj (hs.symm.trans ht)]

/-! ### Streams -/

theorem keeps_openStream (h : self.Sound) (owner : String) {active : ℕ}
    (hactive : active < self.flags)
    (hfresh : ∀ k s, self.slot? k = some s → s.streamActive ≠ some active)
    (hreclaims : Reclaims key event) :
    (self.openStream key owner active).2.Sound ∧
      Keeps self event (some (self.openStream key owner active).1)
        (self.openStream key owner active).2 := by
  refine h.keeps_reclaimed hreclaims ?_
  have hframed := framed_reclaimInactiveStream h key
  unfold openStream
  dsimp only
  split
  · exact Or.inl ⟨_, rfl⟩
  · rename_i hstream
    split
    · exact Or.inl ⟨_, rfl⟩
    · rename_i hlimit
      obtain ⟨id, next, hreserve, hnext, hid, hfree⟩ := hframed.sound.runtime.reserveImageId key
      have hfits : Fits (self.reclaimInactiveStream key).paneGraphics key 0 := by
        refine ⟨fun hnone => ?_, (Nat.sub_le _ _).trans hframed.sound.runtime.inlineBytes_le⟩
        simpa [Runtime.canAddSlot, App.slot?, hnone] using hlimit
      simp only [hreserve]
      refine Or.inr ⟨Bool.eq_false_of_not_eq_true hstream, _, rfl,
        hframed.sound.put rfl hnext hid hfree hfits rfl (fun flag hflag => ?_)
        (fun flag k s hflag hs hsflag => ?_) fun flag hflag => ?_⟩
      · obtain rfl := Option.some.inj hflag
        exact ⟨rfl, by simpa using hactive⟩
      · obtain rfl := Option.some.inj hflag
        exact absurd hsflag (hfresh k s (slot?_of_reclaimInactiveStream hs))
      · rcases List.mem_append.1 hflag with hslot | hdown
        · rw [Option.mem_toList, Option.bind_eq_some_iff] at hslot
          exact Or.inr (Or.inr hslot)
        · exact Or.inl hdown

/-- The flag of a new stream. -/
theorem Sound.newFlag (h : self.Sound) (ended : Bool) : (self.newFlag ended).Sound :=
  h.of_le id (fun _ => le_rfl) rfl (Nat.le_succ _)

theorem Sound.keeps_newFlag (h : self.Sound) (ended : Bool) :
    Keeps self event reply (self.newFlag ended) := by
  refine h.keeps_of_slot? (h.newFlag ended) (fun _ => rfl) fun flag hflag => ?_
  rcases List.mem_append.1 hflag with hnew | hdown
  · split at hnew
    · exact Or.inr (List.mem_singleton.1 hnew).ge
    · exact absurd hnew List.not_mem_nil
  · exact Or.inl hdown

theorem keeps_streamOpen (h : self.Sound) (pane : Option ℕ) (params : PaneGraphicsStreamParams)
    (ended : Bool) :
    (self.handlePaneGraphicsStreamOpen pane params ended).2.Sound ∧
      Keeps self (.streamOpen pane params ended)
        (some (self.handlePaneGraphicsStreamOpen pane params ended).1)
        (self.handlePaneGraphicsStreamOpen pane params ended).2 := by
  unfold handlePaneGraphicsStreamOpen
  dsimp only
  split
  · exact ⟨h.newFlag ended, h.keeps_newFlag ended⟩
  · split
    · exact ⟨h.newFlag ended, h.keeps_newFlag ended⟩
    · rename_i hended
      obtain rfl := Bool.eq_false_of_not_eq_true hended
      split
      · exact ⟨h.newFlag false, h.keeps_newFlag false⟩
      · split
        · exact ⟨h.newFlag false, h.keeps_newFlag false⟩
        · rename_i key hkey
          obtain ⟨hsound, hkeeps⟩ := keeps_openStream (h.newFlag false) params.owner
            (Nat.lt_succ_self self.flags)
            (fun k s hs hflag => (h.made hs hflag).2.ne rfl)
            (show Reclaims key (.streamOpen pane params false) from hkey)
          -- A flag that is up and that no slot has changes nothing for the slots.
          exact ⟨hsound, hkeeps.hostImageId, hkeeps.owned, hkeeps.error⟩

theorem keeps_streamSet (h : self.Sound) (pane : Option ℕ) (params : PaneGraphicsSetParams) :
    (self.handlePaneGraphicsStreamSet decodeSlice pane params).2.Sound ∧
      Keeps self (.streamSet pane params)
        (some (self.handlePaneGraphicsStreamSet decodeSlice pane params).1)
        (self.handlePaneGraphicsStreamSet decodeSlice pane params).2 := by
  unfold handlePaneGraphicsStreamSet
  split
  · exact ⟨h, h.keeps_refl⟩
  · split
    · exact ⟨h, h.keeps_refl⟩
    · rename_i key hkey
      split
      · exact ⟨h, h.keeps_refl⟩
      · rename_i slot hslot
        split
        · rename_i howner
          rw [Bool.and_eq_true, beq_iff_eq] at howner
          rcases setLayer_cases decodeSlice h key params with
            ⟨e, heq⟩ | ⟨next, heq, hframed, hid⟩ <;> rw [heq]
          · exact ⟨h, h.keeps_refl⟩
          · refine ⟨hframed.sound, hframed.keeps h (fun s t hs ht => Or.inl (hid s t hs ht))
              (fun s hs _ => Or.inr ⟨params.owner, ?_, rfl, hkey⟩) fun e he => absurd he (by simp)⟩
            rw [← Option.some.inj (hslot.symm.trans hs), howner.1]
        · split <;> exact ⟨h, h.keeps_refl⟩

theorem keeps_streamClose (h : self.Sound) (pane : Option ℕ) (params : PaneGraphicsStreamParams) :
    (self.handlePaneGraphicsStreamClose pane params).2.Sound ∧
      Keeps self (.streamClose pane params)
        (some (self.handlePaneGraphicsStreamClose pane params).1)
        (self.handlePaneGraphicsStreamClose pane params).2 := by
  unfold handlePaneGraphicsStreamClose
  split
  · exact ⟨h, h.keeps_refl⟩
  · rename_i pane
    split
    · exact ⟨h, h.keeps_refl⟩
    · rename_i key hkey
      split
      · rename_i howner
        obtain ⟨slot, hslot, howner⟩ := (Option.any_eq_true _ _).1 howner
        have hlayer : layerKey (some pane) params.paneId params.layerId = .ok key := by
          simp only [layerKey, hkey]
        have hframed := framed_remove h key
        refine ⟨hframed.sound, hframed.keeps h (fun s t _ ht => ?_)
          (fun s hs _ => Or.inr ⟨params.owner, ?_, rfl, hlayer⟩) fun e he => absurd he (by simp)⟩
        · exact absurd ((slot?_remove_self key).symm.trans ht) (by simp)
        · rw [← Option.some.inj (hslot.symm.trans hs)]
          exact beq_iff_eq.1 howner
      · exact ⟨h, h.keeps_refl⟩

theorem keeps_streamDirect (h : self.Sound) (pane : Option ℕ) (params : PaneGraphicsDirectParams)
    (file : FrameFile) (ended : Bool) :
    (self.handlePaneGraphicsStreamDirect pane params file ended).2.Sound ∧
      Keeps self (.streamDirect pane params file ended)
        (some (self.handlePaneGraphicsStreamDirect pane params file ended).1)
        (self.handlePaneGraphicsStreamDirect pane params file ended).2 := by
  unfold handlePaneGraphicsStreamDirect
  split
  · exact ⟨h, h.keeps_refl⟩
  · split
    · exact ⟨h, h.keeps_refl⟩
    · rename_i key hkey
      split
      · exact ⟨h, h.keeps_refl⟩
      · rename_i layer hlayer
        obtain ⟨⟨slot, hslot, howner⟩, hfits⟩ := directLayer_fits hlayer h.runtime
        have hown : ∀ s, self.slot? key = some s → ∃ owner, s.streamOwner = some owner ∧
            ByOwner owner key (.streamDirect pane params file ended) := fun s hs =>
          ⟨params.owner, Option.some.inj (hslot.symm.trans hs) ▸ howner, rfl, hkey⟩
        have hfree : ∀ k s, self.slot? k = some s →
            (s.hostImageId = slot.hostImageId ↔ k = key) := by
          refine fun k s hs => ⟨h.runtime.distinct hs hslot, fun hk => ?_⟩
          subst hk
          rw [Option.some.inj (hs.symm.trans hslot)]
        have hmade : ∀ flag, slot.streamActive = some flag →
            slot.streamOwner.isSome = true ∧ flag < self.flags := fun flag => h.made hslot
        have hapart : ∀ flag k s, slot.streamActive = some flag → self.slot? k = some s →
            s.streamActive = some flag → k = key := fun flag k s hflag hs hsflag =>
          h.apart hs hslot hsflag hflag
        have hlowered : ∀ flag ∈ (if ended then slot.streamActive.toList else []),
            slot.streamActive = some flag := by
          intro flag hflag
          split at hflag
          · exact Option.mem_toList.1 hflag
          · exact absurd hflag List.not_mem_nil
        rw [hslot]
        dsimp only
        generalize (if ended then slot.streamActive.toList else []) = lowered at hlowered
        have hdown : ∀ flag ∈ (self.lower lowered).down, flag ∈ self.down ∨ self.flags ≤ flag ∨
            ∃ s, self.slot? key = some s ∧ s.streamActive = some flag := by
          intro flag hflag
          rcases List.mem_append.1 hflag with hnew | hdown
          · exact Or.inr (Or.inr ⟨slot, hslot, hlowered flag hnew⟩)
          · exact Or.inl hdown
        split
        · have hframed : Framed self key (self.lower lowered) :=
            ⟨h.of_le id (fun _ => le_rfl) rfl le_rfl, fun k _ => rfl, hdown⟩
          refine ⟨hframed.sound, hframed.keeps h (fun s t hs ht => ?_)
            (fun s hs _ => Or.inr (hown s hs)) fun e _ => Or.inl rfl⟩
          exact Or.inl (by rw [Option.some.inj (ht.symm.trans hs)])
        · obtain ⟨hframed, hid⟩ : Framed self key
              ((self.lower lowered).insert key { slot with layer := some layer }).markChanged ∧ _ :=
            h.put rfl h.runtime.next (show IsHostId slot.hostImageId from h.runtime.hostId hslot)
              hfree hfits rfl hmade hapart hdown
          exact ⟨hframed.sound, hframed.keeps h (fun s t hs ht => Or.inl (hid s t hs ht))
            (fun s hs _ => Or.inr (hown s hs)) fun e he => absurd he (by simp)⟩

/-! ### Dropped slots -/

/-- Slots were dropped, with an active stream only those of `gone`. -/
structure Drops (before : App) (gone : Key → Prop) (after : App) : Prop where
  sound : after.Sound
  slot? : ∀ {k s}, after.slot? k = some s → before.slot? k = some s
  active : ∀ {k s}, before.slot? k = some s → before.streamIsActive s = true →
    (after.slot? k = some s ∧ after.streamIsActive s = true) ∨ gone k

theorem drops_refl (h : self.Sound) (gone : Key → Prop) : Drops self gone self :=
  ⟨h, id, fun hs hactive => Or.inl ⟨hs, hactive⟩⟩

variable {gone : Key → Prop}

theorem Drops.markChanged (h : Drops self gone next) : Drops self gone next.markChanged :=
  ⟨h.sound.markChanged, h.slot?, h.active⟩

theorem Drops.trans (h : Drops self gone mid) (h' : Drops mid gone next) :
    Drops self gone next where
  sound := h'.sound
  slot? hs := h.slot? (h'.slot? hs)
  active hs hactive := by
    rcases h.active hs hactive with ⟨hmid, hmidActive⟩ | hgone
    · exact h'.active hmid hmidActive
    · exact Or.inr hgone

theorem Sound.drops_retain (h : self.Sound) {keep : Key → Slot → Bool}
    (hgone : ∀ k s, self.streamIsActive s = true → keep k s = false → gone k) :
    Drops self gone (self.retain keep) where
  sound := h.retain keep
  slot? {k s} hs := by
    rw [slot?_retain] at hs
    exact (Option.filter_eq_some_iff.1 hs).1
  active {k s} hs hactive := by
    cases hkeep : keep k s with
    | false => exact Or.inr (hgone k s hactive hkeep)
    | true =>
      obtain ⟨flag, hflag, hup⟩ := streamIsActive_iff.1 hactive
      refine Or.inl ⟨?_, streamIsActive_iff.2 ⟨flag, hflag, fun hdown => ?_⟩⟩
      · rw [slot?_retain, hs, Option.filter_some, if_pos hkeep]
      · rcases mem_down_retain.1 hdown with hdown | ⟨j, t, ht, hdrop, htflag⟩
        · exact hup hdown
        · obtain rfl := h.apart hs ht hflag htflag
          obtain rfl := Option.some.inj (hs.symm.trans ht)
          exact absurd (hkeep.symm.trans hdrop) (by simp)

theorem Drops.keeps (h : Drops self gone next) (hgone : ∀ k, gone k → Removes self k event) :
    Keeps self event none next where
  hostImageId k s t hs ht := by
    rw [Option.some.inj (hs.symm.trans (h.slot? ht))]
    exact Or.inl rfl
  owned k s hs hactive := by
    rcases h.active hs hactive with ⟨hnext, hnextActive⟩ | hk
    · exact Or.inl ⟨hnext, Or.inl hnextActive⟩
    · exact Or.inr (Or.inr (hgone k hk))
  error e he := absurd he (by simp)

theorem Sound.drops_retainLivePanes (h : self.Sound) :
    Drops self (fun key => key.1 ∉ self.panes) self.retainLivePanes.2 := by
  unfold retainLivePanes
  split
  · exact drops_refl h _
  · have hdrops : Drops self (fun key => key.1 ∉ self.panes)
        (self.retain fun key _ => key.1 ∈ self.panes) :=
      h.drops_retain fun k s _ hkeep => of_decide_eq_false hkeep
    dsimp only
    split
    · exact hdrops
    · exact hdrops.markChanged

theorem kittyGraphicsEnabled_retainLivePanes (self : App) :
    self.retainLivePanes.2.kittyGraphicsEnabled = self.kittyGraphicsEnabled := by
  unfold retainLivePanes
  split
  · rfl
  · dsimp only
    split <;> rfl

theorem Sound.drops_syncPaneGraphicsStreams (h : self.Sound) :
    Drops self (fun key => key.1 ∉ self.panes ∨ self.kittyGraphicsEnabled = false)
      self.syncPaneGraphicsStreams.2 := by
  have hlive := h.drops_retainLivePanes
  have hretain : Drops self.retainLivePanes.2
      (fun key => key.1 ∉ self.panes ∨ self.kittyGraphicsEnabled = false)
      (self.retainLivePanes.2.retain fun _ slot => self.retainLivePanes.2.kittyGraphicsEnabled &&
        (slot.streamOwner.isNone || self.retainLivePanes.2.streamIsActive slot)) := by
    refine hlive.sound.drops_retain fun k s hactive hkeep => Or.inr ?_
    simpa [hactive, kittyGraphicsEnabled_retainLivePanes] using hkeep
  have hdrops := Drops.trans
    (⟨hlive.sound, hlive.slot?, fun hs ha => (hlive.active hs ha).imp_right Or.inl⟩) hretain
  unfold syncPaneGraphicsStreams
  dsimp only
  split
  · exact hdrops.markChanged
  · exact hdrops

theorem Sound.drops_setEnabled (h : self.Sound) (enabled : Bool) :
    Drops self (fun _ => enabled = false) (self.setEnabled enabled) := by
  have hnext : Drops self (fun _ => enabled = false)
      { self with kittyGraphicsEnabled := enabled } :=
    ⟨h.of_le id (fun _ => le_rfl) rfl le_rfl, id, fun hs hactive => Or.inl ⟨hs, hactive⟩⟩
  unfold setEnabled
  dsimp only
  split
  · rename_i hoff
    rw [Bool.and_eq_true, Bool.not_eq_true'] at hoff
    exact (hnext.trans (hnext.sound.drops_retain fun _ _ _ _ => hoff.2)).markChanged
  · exact hnext

/-- The flag of a connection that ends is lowered. -/
theorem keeps_lower (self : App) (flag : ℕ) :
    Keeps self (.streamEnded flag) none (self.lower [flag]) where
  hostImageId k s t hs ht := Or.inl (by rw [Option.some.inj (ht.symm.trans hs)])
  owned k s hs hactive := by
    obtain ⟨own, hown, hup⟩ := streamIsActive_iff.1 hactive
    refine Or.inl ⟨hs, ?_⟩
    by_cases heq : own = flag
    · exact Or.inr ⟨own, hown, by rw [heq]⟩
    · refine Or.inl (streamIsActive_iff.2 ⟨own, hown, fun hdown => ?_⟩)
      rcases List.mem_cons.1 hdown with hnew | hdown
      · exact heq hnew
      · exact hup hdown
  error e he := absurd he (by simp)

end App

/-! ## Runs -/

theorem keeps_handle {decodeSlice : Bytes → ℕ → Except DecodeSliceError Bytes} {self : App}
    (h : self.Sound) (event : GraphicsEvent) :
    (handle decodeSlice self event).2.Sound ∧
      Keeps self event (handle decodeSlice self event).1 (handle decodeSlice self event).2 := by
  cases event with
  | set pane params => exact App.keeps_set h pane params
  | clear pane params => exact App.keeps_clear h pane params
  | streamOpen pane params ended => exact App.keeps_streamOpen h pane params ended
  | streamSet pane params => exact App.keeps_streamSet h pane params
  | streamDirect pane params file ended => exact App.keeps_streamDirect h pane params file ended
  | streamClose pane params => exact App.keeps_streamClose h pane params
  | retainLivePanes =>
    exact ⟨h.drops_retainLivePanes.sound, h.drops_retainLivePanes.keeps fun _ => id⟩
  | syncPaneGraphicsStreams =>
    exact ⟨h.drops_syncPaneGraphicsStreams.sound, h.drops_syncPaneGraphicsStreams.keeps fun _ => id⟩
  | setEnabled enabled =>
    exact ⟨(h.drops_setEnabled enabled).sound, (h.drops_setEnabled enabled).keeps fun _ => id⟩
  | setDirectGraphicsAvailable available =>
    have hnext : ({ self with directGraphicsAvailable := available } : App).Sound :=
      h.of_le id (fun _ => le_rfl) rfl le_rfl
    exact ⟨hnext, h.keeps_of_slot? hnext (fun _ => rfl) fun _ => Or.inl⟩
  | setPanes panes =>
    have hnext : ({ self with panes } : App).Sound := h.of_le id (fun _ => le_rfl) rfl le_rfl
    exact ⟨hnext, h.keeps_of_slot? hnext (fun _ => rfl) fun _ => Or.inl⟩
  | streamEnded flag =>
    simp only [handle]
    split
    · exact ⟨h.of_le id (fun _ => le_rfl) rfl le_rfl, App.keeps_lower self flag⟩
    · exact ⟨h, h.keeps_refl⟩

/-- The initial state : no slots. -/
def App.start (panes : List ℕ) (kittyGraphicsEnabled directGraphicsAvailable : Bool) : App :=
  { panes, kittyGraphicsEnabled, directGraphicsAvailable }

theorem sound_start (panes : List ℕ) (enabled available : Bool) :
    (App.start panes enabled available).Sound where
  runtime := Runtime.sound_empty
  made := by simp [App.start, App.slot?]
  apart := by simp [App.start, App.slot?]

theorem sound_run (decodeSlice : Bytes → ℕ → Except DecodeSliceError Bytes) (panes : List ℕ)
    (enabled available : Bool) (events : List GraphicsEvent) :
    (run (step decodeSlice) (App.start panes enabled available) events).Sound := by
  have hstep : ∀ (self : App) event, self.Sound → (step decodeSlice self event).Sound :=
    fun self event h => (keeps_handle h event).1
  exact run_invariant hstep (sound_start panes enabled available) events

/-- The slots are consistent : their image ids are distinct and have bit 31, there is an image id
for every layer, and the limits hold. -/
structure Consistent (runtime : Runtime) : Prop where
  distinct : ∀ j k s t, runtime.slots.lookup j = some s → runtime.slots.lookup k = some t →
    s.hostImageId = t.hostImageId → j = k
  bit : ∀ k s, runtime.slots.lookup k = some s →
    s.hostImageId.testBit 31 = true ∧ s.hostImageId < 2 ^ 32
  reserves : ∀ key, (runtime.reserveImageId key).1.isSome = true
  slotCount_le : runtime.slotCount ≤ maxLayersTotal
  layerCount_le : ∀ pane, runtime.layerCount pane ≤ maxLayersPerPane
  inlineBytes_le : runtime.inlineBytes ≤ maxInlineBytesTotal

/-- In any run of the requests, with streams that end, panes that close and the feature switched at
any time, the slots are consistent, and what the next event does keeps them : a slot keeps its image
id, one with an active stream is only changed by its owner or goes with its pane or the feature, and
an error changes no slot but for that of a stream that has ended. -/
theorem graphics_slots_sound (decodeSlice : Bytes → ℕ → Except DecodeSliceError Bytes)
    (panes : List ℕ) (enabled available : Bool) (events : List GraphicsEvent) :
    let self := run (step decodeSlice) (App.start panes enabled available) events
    Consistent self.paneGraphics ∧
      ∀ event,
        Keeps self event (handle decodeSlice self event).1 (handle decodeSlice self event).2 := by
  have h := sound_run decodeSlice panes enabled available events
  refine ⟨⟨fun j k s t => h.runtime.distinct, fun k s hs => ?_, fun key => ?_,
    h.runtime.slotCount_le, h.runtime.layerCount_le, h.runtime.inlineBytes_le⟩,
    fun event => (keeps_handle h event).2⟩
  · exact ⟨(h.runtime.hostId hs).testBit, (h.runtime.hostId hs).2⟩
  · obtain ⟨id, next, heq, -⟩ := h.runtime.reserveImageId key
    rw [heq]
    rfl

end Zynk.Pane.Graphics
