import Zynk.Server.RenderStream

/-!
# What the client was sent

The server's picture of a client (`Faithful`) : the baseline is none or the last frame that was
taken for it, the sequence number counts its terminal frames, and the graphics cache describes the
graphics of its terminal after all the messages that were taken.

The commands of an update turn the graphics that the old cache describes into those of the new one
(`Turns`). A full render whose frame is the baseline, with the same graphics commands, is not sent;
its cache is committed nevertheless. The commands are those of the last frame message, and a
graphics message since then may have changed what they are to do again. `faithful_iff` says that
the picture is right all along exactly when no such render has a cache with other graphics.
-/

set_option linter.unusedSectionVars false

namespace Zynk.Server

open StepRun

/-- What commands do to the graphics of a terminal. -/
structure HostTerminal (G : Type) where
  apply : List UInt8 → G → G
  apply_nil : ∀ graphics, apply [] graphics = graphics

/-- The graphics of the terminal after the messages. -/
def HostTerminal.after {G κ : Type} (host : HostTerminal G) (graphics : G)
    (accepted : List (Accepted κ)) : G :=
  accepted.foldl (fun graphics sent => host.apply sent.message.graphicsBytes graphics) graphics

namespace RenderClient

variable {κ γ : Type} (client : RenderClient κ γ)

@[simp] theorem deferPaneGraphicsRender_renderState :
    client.deferPaneGraphicsRender.renderState = client.renderState := by
  unfold deferPaneGraphicsRender
  split <;> rfl

@[simp] theorem deferPaneGraphicsRender_graphicsCache :
    client.deferPaneGraphicsRender.graphicsCache = client.graphicsCache := by
  unfold deferPaneGraphicsRender
  split <;> rfl

@[simp] theorem deferIncomplete_renderState (incomplete : Bool) :
    (client.deferIncomplete incomplete).renderState = client.renderState := by
  cases incomplete <;> rfl

@[simp] theorem deferIncomplete_graphicsCache (incomplete : Bool) :
    (client.deferIncomplete incomplete).graphicsCache = client.graphicsCache := by
  cases incomplete <;> rfl

@[simp] theorem commitGraphicsCache_renderState (commits : Bool) (next : γ) :
    (client.commitGraphicsCache commits next).renderState = client.renderState := by
  cases commits <;> rfl

@[simp] theorem commitGraphicsCache_graphicsCache (commits : Bool) (next : γ) :
    (client.commitGraphicsCache commits next).graphicsCache =
      if commits then next else client.graphicsCache := by
  cases commits <;> rfl

/-! ## What a render does -/

/-- The client after a render and the message that was taken are these. -/
inductive Streams (client : RenderClient κ γ) (turned : List UInt8 → γ → Prop) :
    RenderClient κ γ → Option (Accepted κ) → Prop
  /-- Nothing was sent, and at most how it is deferred has changed. -/
  | kept {client' : RenderClient κ γ} (hstate : client'.renderState = client.renderState)
      (hcache : client'.graphicsCache = client.graphicsCache ∨ turned [] client'.graphicsCache) :
      Streams client turned client' none
  /-- A frame was sent, with its graphics or without any. -/
  | rendered {client' : RenderClient κ γ} {frame : FrameData κ} {prepared : PreparedRender κ}
      (hprepares : client.renderState.Prepares frame prepared)
      (hstate : client'.renderState = client.renderState.commitSentFrame prepared)
      (hcache : client'.graphicsCache = client.graphicsCache ∧ frame.graphics = [] ∨
        turned frame.graphics client'.graphicsCache) :
      Streams client turned client' (some (.rendered prepared))
  /-- Graphics were sent. -/
  | graphics {client' : RenderClient κ γ} {bytes : SplicedBytes}
      (hstate : client'.renderState = client.renderState)
      (hcache : turned bytes.graphics client'.graphicsCache) :
      Streams client turned client' (some (.graphics bytes))

variable {client} {env : RenderEnv κ γ}

theorem streams_sendFullRender {turned : List UInt8 → γ → Prop} {frame : FrameData κ}
    {prepared : PreparedRender κ} {commits : Bool} {next : γ} (outcome : SendOutcome)
    (incomplete : Bool) (hprepares : client.renderState.Prepares frame prepared)
    (hcommits : commits = true → turned frame.graphics next)
    (hkeeps : commits = false → frame.graphics = []) :
    Streams client turned (client.sendFullRender outcome prepared commits next incomplete).1
      ((client.sendFullRender outcome prepared commits next incomplete).2.map .rendered) := by
  cases outcome with
  | accepted =>
    refine .rendered hprepares (by simp [sendFullRender]) ?_
    cases commits with
    | true => exact Or.inr (by simpa [sendFullRender] using hcommits rfl)
    | false => exact Or.inl ⟨by simp [sendFullRender], hkeeps rfl⟩
  | full => exact .kept rfl (Or.inl rfl)
  | disconnected => exact .kept rfl (Or.inl rfl)

theorem streams_retainedGraphics (render : RetainedGraphics γ) :
    Streams client
      (fun bytes next => (render.encodeLocalPaneGraphics client.graphicsCache).1.bytes = bytes ∧
        (render.encodeLocalPaneGraphics client.graphicsCache).2 = next)
      (client.retainedGraphics env render).1
      ((client.retainedGraphics env render).2.map .graphics) := by
  unfold retainedGraphics
  split
  · exact .kept rfl (Or.inl rfl)
  · generalize render.encodeLocalPaneGraphics client.graphicsCache = result
    obtain ⟨encoded, next⟩ := result
    simp only
    split
    · rename_i hempty
      refine .kept (by split <;> simp) ?_
      split
      · exact Or.inr ⟨hempty, by simp⟩
      · exact Or.inl (by simp)
    · rename_i hbytes
      split
      · exact .kept rfl (Or.inl rfl)
      · split
        · refine .graphics (by simp [hbytes]) ⟨?_, by simp [hbytes]⟩
          simp [framePaneGraphicsForClient, hbytes]
        · exact .kept (by simp) (Or.inl (by simp))
        · exact .kept rfl (Or.inl rfl)
        · exact .kept rfl (Or.inl rfl)

variable [DecidableEq κ]

/-- The full render is skipped as identical and its commands are not sent, but the cache is
committed. -/
def SkipsCommands (env : RenderEnv κ γ) (client : RenderClient κ γ) (render : FullRender κ γ) :
    Prop :=
  render.writer.isSome = true ∧ dropsGraphics (client.encodeFullRender env render).1 = false ∧
    client.renderState.isCurrent (fullFrame render (client.encodeFullRender env render).1) = true

/-- A full render that skips no commands. -/
theorem streams_fullRender (render : FullRender κ γ) (hskips : ¬ client.SkipsCommands env render) :
    Streams client
      (fun bytes next => (client.encodeFullRender env render).1.bytes = bytes ∧
        (client.encodeFullRender env render).2 = next)
      (client.fullRender env render).1 ((client.fullRender env render).2.map .rendered) := by
  unfold SkipsCommands at hskips
  unfold fullRender
  generalize hencode : client.encodeFullRender env render = result at hskips ⊢
  obtain ⟨encoded, next⟩ := result
  simp only at hskips ⊢
  cases hwriter : render.writer with
  | none => exact .kept rfl (Or.inl rfl)
  | some outcome =>
    rw [hwriter, Option.isSome_some] at hskips
    simp only
    have hgraphics : dropsGraphics encoded = false →
        (fullFrame render encoded).graphics = encoded.bytes := fun h => by simp [fullFrame, h]
    have hdropped : dropsGraphics encoded = true → (fullFrame render encoded).graphics = [] :=
      fun h => by simp [fullFrame, h]
    split
    · rename_i hprepare
      rw [ClientRenderState.prepareFrame_eq_none] at hprepare
      have hdrops : dropsGraphics encoded = true := by
        by_contra h
        rw [Bool.not_eq_true] at h
        exact hskips ⟨rfl, h, hprepare⟩
      exact .kept (by simp) (Or.inl (by simp [hdrops]))
    · rename_i prepared hprepare
      have hprepares := ClientRenderState.prepareFrame_eq_some hprepare
      have hcommits : (!dropsGraphics encoded) = true →
          encoded.bytes = (fullFrame render encoded).graphics ∧ next = next :=
        fun h => ⟨(hgraphics (by simpa using h)).symm, rfl⟩
      have hkeeps : (!dropsGraphics encoded) = false → (fullFrame render encoded).graphics = [] :=
        fun h => hdropped (by simpa using h)
      split
      · exact streams_sendFullRender outcome _ hprepares hcommits hkeeps
      · split
        · exact .kept rfl (Or.inl rfl)
        · split
          · exact .kept rfl (Or.inl rfl)
          · rename_i frame hframe
            split
            · exact .kept rfl (Or.inl rfl)
            · rename_i textOnly htext
              split
              · exact streams_sendFullRender outcome false
                  (ClientRenderState.prepareFrame_eq_some htext) (fun h => by cases h)
                  fun _ => rfl
              · exact .kept rfl (Or.inl rfl)
      · exact .kept rfl (Or.inl rfl)

theorem streams_sendRetainedFrame (frame : FrameData κ) (writer : Option SendOutcome)
    (turned : List UInt8 → γ → Prop) :
    Streams client turned (client.sendRetainedFrame env frame writer).1
      ((client.sendRetainedFrame env frame writer).2.map .rendered) := by
  unfold sendRetainedFrame
  cases writer with
  | none => exact .kept rfl (Or.inl rfl)
  | some outcome =>
    simp only
    split
    · exact .kept rfl (Or.inl rfl)
    · rename_i prepared hprepare
      split
      · exact .kept rfl (Or.inl rfl)
      · cases outcome with
        | accepted =>
          exact .rendered (ClientRenderState.prepareFrame_eq_some hprepare) rfl (Or.inl ⟨rfl, rfl⟩)
        | full => exact .kept rfl (Or.inl rfl)
        | disconnected => exact .kept rfl (Or.inl rfl)

end RenderClient

/-! ## The picture of the server -/

namespace RenderWatch

variable {κ γ G : Type} (host : HostTerminal G) (describe : γ → G)

/-- The frame of the last frame message. -/
def lastSent (w : RenderWatch κ γ) : Option (FrameData κ) :=
  (w.accepted.filterMap (·.frame)).getLast?

/-- The number of terminal frames. -/
def terminalFrames (w : RenderWatch κ γ) : ℕ :=
  w.accepted.countP (·.message.isTerminal)

/-- The server's picture of the client is what the client was sent. -/
structure Faithful (graphics : G) (w : RenderWatch κ γ) : Prop where
  baseline : w.client.renderState.lastFrame = none ∨ w.client.renderState.lastFrame = w.lastSent
  seq : ∀ seq ∈ w.client.renderState.terminalSeq, seq = w.terminalFrames
  graphics_eq : describe w.client.graphicsCache = host.after graphics w.accepted

variable [DecidableEq κ] (env : RenderEnv κ γ)

/-- The commands of an update turn what the old cache describes into what the new one does. -/
def Turns (w : RenderWatch κ γ) : RenderEvent κ γ → Prop
  | .fullRender render =>
    host.apply (w.client.encodeFullRender env render).1.bytes (describe w.client.graphicsCache) =
      describe (w.client.encodeFullRender env render).2
  | .retainedGraphics render =>
    host.apply (render.encodeLocalPaneGraphics w.client.graphicsCache).1.bytes
        (describe w.client.graphicsCache) =
      describe (render.encodeLocalPaneGraphics w.client.graphicsCache).2
  | _ => True

/-- The step is no full render that is skipped with commands that change the graphics. -/
def SendsChanges (w : RenderWatch κ γ) : RenderEvent κ γ → Prop
  | .fullRender render => w.client.SkipsCommands env render →
    describe (w.client.encodeFullRender env render).2 = describe w.client.graphicsCache
  | _ => True

variable {host describe env} {graphics : G} {w : RenderWatch κ γ}

/-- The picture stays right over a render. -/
theorem Faithful.of_streams {turned : List UInt8 → γ → Prop} {client : RenderClient κ γ}
    {sent : Option (Accepted κ)} (h : Faithful host describe graphics w)
    (hstreams : w.client.Streams turned client sent)
    (hturns : ∀ bytes next, turned bytes next →
      host.apply bytes (describe w.client.graphicsCache) = describe next) :
    Faithful host describe graphics { client, accepted := w.accepted ++ sent.toList } := by
  have hafter : ∀ sent : Accepted κ, host.after graphics (w.accepted ++ [sent]) =
      host.apply sent.message.graphicsBytes (describe w.client.graphicsCache) := fun sent => by
    rw [h.graphics_eq]
    exact List.foldl_append
  cases hstreams with
  | kept hstate hcache =>
    rw [Option.toList_none, List.append_nil]
    refine ⟨by rw [hstate]; exact h.baseline, by rw [hstate]; exact h.seq, ?_⟩
    rcases hcache with hcache | hcache
    · exact (congrArg describe hcache).trans h.graphics_eq
    · rw [← hturns _ _ hcache, host.apply_nil]
      exact h.graphics_eq
  | rendered hprepares hstate hcache =>
    rename_i frame prepared
    refine ⟨Or.inr ?_, ?_, ?_⟩
    · have hframe : (Accepted.rendered prepared).frame = some frame := hprepares.intoFrame
      simp only [hstate, hprepares.lastFrame, lastSent, Option.toList_some, List.filterMap_append,
        List.filterMap_cons, hframe, List.filterMap_nil, List.getLast?_append_of_ne_nil,
        ne_eq, reduceCtorEq, not_false_eq_true, List.getLast?_singleton]
    · intro seq hseq
      rw [hstate, hprepares.terminalSeq, Option.mem_def, Option.map_eq_some_iff] at hseq
      obtain ⟨old, hold, rfl⟩ := hseq
      have hterminal : (Accepted.rendered prepared).message.isTerminal = true :=
        hprepares.isTerminal.trans (by rw [hold]; rfl)
      simp only [terminalFrames, Option.toList_some, List.countP_append, List.countP_singleton,
        hterminal, if_true]
      rw [h.seq old hold]
      rfl
    · rw [Option.toList_some, hafter]
      change _ = host.apply prepared.message.graphicsBytes _
      rw [hprepares.graphics]
      rcases hcache with ⟨hcache, hnone⟩ | hcache
      · rw [hnone, host.apply_nil, hcache]
      · exact (hturns _ _ hcache).symm
  | graphics hstate hcache =>
    rename_i bytes
    refine ⟨?_, ?_, ?_⟩
    · rw [hstate]
      have hframe : (Accepted.graphics bytes : Accepted κ).frame = none := rfl
      simpa [lastSent, hframe] using h.baseline
    · rw [hstate]
      have hterminal : (Accepted.graphics bytes : Accepted κ).message.isTerminal = false := rfl
      simpa [terminalFrames, hterminal] using h.seq
    · rw [Option.toList_some, hafter]
      exact (hturns _ _ hcache).symm

/-- Forgetting the baseline. -/
theorem Faithful.of_forgets {renderState : ClientRenderState κ}
    (h : Faithful host describe graphics w)
    (hframe : renderState.lastFrame = none ∨
      renderState.lastFrame = w.client.renderState.lastFrame)
    (hseq : renderState.terminalSeq = w.client.renderState.terminalSeq) :
    Faithful host describe graphics { w with client := { w.client with renderState } } where
  baseline := hframe.elim Or.inl fun hsame => h.baseline.imp hsame.trans hsame.trans
  seq seq hmem := h.seq seq (hseq ▸ hmem)
  graphics_eq := h.graphics_eq

/-- A full render that is skipped leaves the messages as they are, and the cache of its commands. -/
theorem step_of_skipsCommands {render : FullRender κ γ} (h : w.client.SkipsCommands env render) :
    (step env w (.fullRender render)).accepted = w.accepted ∧
      (step env w (.fullRender render)).client.graphicsCache =
        (w.client.encodeFullRender env render).2 ∧
      (step env w (.fullRender render)).client.renderState = w.client.renderState := by
  obtain ⟨hwriter, hdrops, hcurrent⟩ := h
  obtain ⟨outcome, hwriter⟩ := Option.isSome_iff_exists.1 hwriter
  have hprepare : w.client.renderState.prepareFrame env.blit
      (RenderClient.fullFrame render (w.client.encodeFullRender env render).1) = none :=
    ClientRenderState.prepareFrame_eq_none.2 hcurrent
  have hskip : w.client.fullRender env render =
      ((w.client.commitGraphicsCache true (w.client.encodeFullRender env render).2).deferIncomplete
        (w.client.encodeFullRender env render).1.incomplete, none) := by
    unfold RenderClient.fullRender
    simp only [hwriter, hprepare, hdrops, Bool.not_false, Bool.and_true]
  simp [step, hskip]

/-- One step keeps the picture exactly if it sends what it changes. -/
theorem faithful_step {event : RenderEvent κ γ} (h : Faithful host describe graphics w)
    (hturns : Turns host describe env w event) :
    Faithful host describe graphics (step env w event) ↔ SendsChanges describe env w event := by
  cases event with
  | fullRender render =>
    by_cases hskips : w.client.SkipsCommands env render
    · obtain ⟨haccepted, hcache, hstate⟩ := step_of_skipsCommands hskips
      constructor
      · intro hafter _
        rw [← hcache, hafter.graphics_eq, haccepted, h.graphics_eq]
      · intro hsends
        refine ⟨?_, ?_, ?_⟩
        · rw [hstate, lastSent, haccepted]
          exact h.baseline
        · rw [hstate, terminalFrames, haccepted]
          exact h.seq
        · rw [hcache, hsends hskips, haccepted]
          exact h.graphics_eq
    · refine iff_of_true ?_ fun h => absurd h hskips
      exact h.of_streams (RenderClient.streams_fullRender render hskips)
        fun _ _ ⟨hbytes, hnext⟩ => hbytes ▸ hnext ▸ hturns
  | retainedFrame frame writer =>
    exact iff_of_true (h.of_streams
      (RenderClient.streams_sendRetainedFrame frame writer fun _ _ => False)
      fun _ _ h => h.elim) trivial
  | retainedGraphics render =>
    exact iff_of_true (h.of_streams (RenderClient.streams_retainedGraphics render)
      fun _ _ ⟨hbytes, hnext⟩ => hbytes ▸ hnext ▸ hturns) trivial
  | resetBaseline =>
    refine iff_of_true (h.of_forgets ?_ ?_) trivial
    · cases w.client.renderState <;> exact Or.inl rfl
    · cases w.client.renderState <;> rfl
  | requestRepaint =>
    refine iff_of_true (h.of_forgets ?_ ?_) trivial
    · cases w.client.renderState with
      | semantic => exact Or.inl rfl
      | terminalAnsi => exact Or.inr rfl
    · cases w.client.renderState <;> rfl
  | requestSemanticRedrawAfterInput =>
    refine iff_of_true (h.of_forgets ?_ ?_) trivial
    · cases w.client.renderState with
      | semantic => exact Or.inl rfl
      | terminalAnsi => exact Or.inr rfl
    · cases w.client.renderState <;> rfl
  | takeDeferredRender => exact iff_of_true ⟨h.baseline, h.seq, h.graphics_eq⟩ trivial

/-- A new client whose terminal has the graphics of its cache. -/
theorem faithful_start (encoding : RenderEncoding) (cache : γ) :
    Faithful host describe (describe cache) (start encoding cache : RenderWatch κ γ) where
  baseline := by cases encoding <;> exact Or.inl rfl
  seq := by
    cases encoding with
    | semanticFrame => rintro _ ⟨⟩
    | terminalAnsi =>
      rintro _ ⟨⟩
      rfl
  graphics_eq := rfl

/-- The picture is right all along exactly if every step sends what it changes. -/
theorem faithful_iff (host : HostTerminal G) (describe : γ → G) (env : RenderEnv κ γ)
    (encoding : RenderEncoding) (cache : γ) (events : List (RenderEvent κ γ))
    (hturns : Along (step env) (Turns host describe env) (start encoding cache) events) :
    (∀ es, es <+: events → Faithful host describe (describe cache)
        (run (step env) (start encoding cache) es)) ↔
      Along (step env) (SendsChanges describe env) (start encoding cache) events :=
  forall_prefix_iff_along (fun _ _ h hturns => faithful_step h hturns) events
    (faithful_start encoding cache) hturns

/-! ## An image that is moved and moved back -/

instance [DecidableEq G] : DecidablePred (Turns host describe env w)
  | .fullRender _ => inferInstanceAs (Decidable (_ = _))
  | .retainedGraphics _ => inferInstanceAs (Decidable (_ = _))
  | .retainedFrame _ _ | .resetBaseline | .requestRepaint | .requestSemanticRedrawAfterInput
  | .takeDeferredRender => .isTrue trivial

instance (client : RenderClient κ γ) (render : FullRender κ γ) :
    Decidable (client.SkipsCommands env render) :=
  inferInstanceAs (Decidable (_ ∧ _ ∧ _))

instance [DecidableEq G] : DecidablePred (SendsChanges describe env w)
  | .fullRender _ => inferInstanceAs (Decidable (_ → _))
  | .retainedGraphics _ | .retainedFrame _ _ | .resetBaseline | .requestRepaint
  | .requestSemanticRedrawAfterInput | .takeDeferredRender => .isTrue trivial

def octets (text : String) : List UInt8 :=
  text.toList.map fun c => UInt8.ofNat c.toNat

/-- The command that displays the image 7, which the terminal has, in the top row or lower down. -/
def displayAt (top : Bool) : List UInt8 :=
  octets (if top then "\x1b[1;1H\x1b_Ga=p,i=7,p=1,c=4,r=2,z=0,C=1,q=2;\x1b\\"
    else "\x1b[6;1H\x1b_Ga=p,i=7,p=1,c=4,r=2,z=0,C=1,q=2;\x1b\\")

/-- A terminal with the image : displaying it again moves it. -/
def imageTerminal : HostTerminal (Option Bool) where
  apply bytes graphics :=
    if bytes = displayAt true then some true
    else if bytes = displayAt false then some false
    else graphics
  apply_nil _ := rfl

def imageEnv : RenderEnv String (Option Bool) where
  codec :=
    { encodeToVec := fun msg => .ok msg.graphicsBytes
      decodeFromSlice := fun _ => .error "not read" }
  blit _ _ memory _ := (syncOutputEnd, memory)
  defaultCache := none
  clearBytes _ := ([], none)
  clearNext _ := ({ bytes := [], incomplete := false, skippedOversized := false }, none)

/-- Whatever is displayed, the image is to be displayed there. -/
def encodeImage (top : Bool) (_ : Option Bool) : EncodedGraphics × Option Bool :=
  ({ bytes := displayAt top, incomplete := false, skippedOversized := false }, some top)

def renderImage (content : String) (top : Bool) : RenderEvent String (Option Bool) :=
  .fullRender
    { content, width := 80, height := 24, encodesPanes := true, slotsEmpty := false
      encodeLocalPaneGraphics := encodeImage top, writer := some .accepted }

def moveImage (top : Bool) : RenderEvent String (Option Bool) :=
  .retainedGraphics
    { allowed := true, cols := 80, rows := 24, cellSizeKnown := true
      encodeLocalPaneGraphics := encodeImage top, writer := some .accepted }

/-- The image is moved, and moved back with a change of the text. -/
theorem faithful_iff_moved :
    Faithful imageTerminal id none (run (step imageEnv) (start .terminalAnsi none)
      [renderImage "$" true, moveImage false, renderImage "$ ls" true]) :=
  (faithful_iff imageTerminal id imageEnv .terminalAnsi none
    [renderImage "$" true, moveImage false, renderImage "$ ls" true] (by decide +kernel)).2
    (by decide +kernel) _ (List.prefix_append _ [])

/-- The image is moved, and moved back under the same text : the frame is the one that was sent
first, and is not sent again. -/
def movedBack : List (RenderEvent String (Option Bool)) :=
  [renderImage "$" true, moveImage false, renderImage "$" true]

theorem moved_back_image_stays :
    (Along (step imageEnv) (Turns imageTerminal id imageEnv) (start .semanticFrame none) movedBack ∧
      ¬ Faithful imageTerminal id none
        (run (step imageEnv) (start .semanticFrame none) movedBack)) ∧
    (Along (step imageEnv) (Turns imageTerminal id imageEnv) (start .terminalAnsi none) movedBack ∧
      ¬ Faithful imageTerminal id none
        (run (step imageEnv) (start .terminalAnsi none) movedBack)) := by
  refine ⟨⟨by decide +kernel, fun h => ?_⟩, ⟨by decide +kernel, fun h => ?_⟩⟩
  · have hgraphics := h.graphics_eq
    revert hgraphics
    decide +kernel
  · have hgraphics := h.graphics_eq
    revert hgraphics
    decide +kernel

end RenderWatch

end Zynk.Server
