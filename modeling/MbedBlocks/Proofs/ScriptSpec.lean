import MbedBlocks.Proofs.EmissionLog

/-!
# What scripts ensure

A postcondition of a script speaks of the registrations that the script makes itself and of its
code, whatever the sockets yield. It is computed along the script, and holds of every run at a site
of the board. A property that the registrations of all kinds have is one of all effects of a walk.
-/

namespace MbedBlocks.Proofs

open Board (BusPins Mapper)
open Code (Level Fragment)
open MbedBlocks.Graph (ChildEmitter)

/-- The name of a pin's unit in the program: that of the pin if it has no unit. -/
def unitName (board : Board) (pin : String) (mapper : Mapper) : String :=
  (board.unit pin mapper).toOption.getD pin

/-- The answers that a board allows. Those of sockets may be anything. -/
def Admits (board : Board) : (r : Request) → r.Answer → Prop
  | .unit pin mapper, unit => unit = unitName board pin mapper
  | .bus name choice, pins => pins = (board.busPins? name (some choice)).getD .unconnected
  | _, _ => True

/-- The registrations that a request makes. -/
def registrations : Request → List Effect
  | .register r => [.register r]
  | .provide function rs => [.unlessDefined function rs]
  | _ => []

/-- Under every answer that the board allows, the script's own registrations and its result satisfy
`Q`. -/
def Ensures (board : Board) {α : Type} : Script α → (List Effect → α → Prop) → Prop
  | .done a, Q => Q [] a
  | .ask r next, Q =>
    ∀ answer, Admits board r answer →
      Ensures board (next answer) fun own a => Q (registrations r ++ own) a

section Rules

variable {board : Board} {α β : Type} {Q R : List Effect → α → Prop}

lemma Ensures.mono {x : Script α} (h : Ensures board x Q) (hQ : ∀ own a, Q own a → R own a) :
    Ensures board x R := by
  induction x generalizing Q R with
  | done a => exact hQ _ _ h
  | ask r next ih => exact fun answer hanswer => ih answer (h answer hanswer) fun own a => hQ _ a

lemma ensures_of_forall (x : Script α) (h : ∀ own a, Q own a) : Ensures board x Q := by
  induction x generalizing Q with
  | done a => exact h [] a
  | ask r next ih => exact fun answer _ => ih answer fun own a => h _ a

@[simp] lemma ensures_pure (a : α) : Ensures board (pure a) Q ↔ Q [] a := Iff.rfl

@[simp] lemma ensures_bind (x : Script β) (f : β → Script α) :
    Ensures board (x >>= f) Q ↔
      Ensures board x fun own a => Ensures board (f a) fun more v => Q (own ++ more) v := by
  induction x generalizing Q with
  | done a => exact Iff.rfl
  | ask r next ih =>
    refine forall_congr' fun answer => imp_congr_right fun _ => ?_
    refine (ih answer).trans ?_
    simp only [List.append_assoc]

@[simp] lemma ensures_map (f : β → α) (x : Script β) :
    Ensures board (f <$> x) Q ↔ Ensures board x fun own a => Q own (f a) := by
  rw [map_eq_pure_bind, ensures_bind]
  simp only [ensures_pure, List.append_nil]

@[simp] lemma ensures_ite {c : Prop} [Decidable c] (x y : Script α) :
    Ensures board (if c then x else y) Q ↔ (c → Ensures board x Q) ∧ (¬c → Ensures board y Q) := by
  split_ifs with h <;> simp [h]

@[simp] lemma ensures_statement {Q : List Effect → Fragment → Prop} (text : String) :
    Ensures board (Script.statement text) Q ↔ Q [] (.statement text) := Iff.rfl

@[simp] lemma ensures_expression {Q : List Effect → Fragment → Prop} (text : String)
    (level : Level) :
    Ensures board (Script.expression text level) Q ↔ Q [] (.value text level) := Iff.rfl

@[simp] lemma ensures_call {Q : List Effect → Fragment → Prop} (text : String) :
    Ensures board (Script.call text) Q ↔ Q [] (.value text .unaryPostfix) := Iff.rfl

section Requests

variable {Q : List Effect → Unit → Prop} {T : List Effect → String → Prop}

@[simp] lemma ensures_register (r : Registration) :
    Ensures board (Script.register r) Q ↔ Q [.register r] () :=
  ⟨fun h => h () trivial, fun h _ _ => h⟩

@[simp] lemma ensures_addInclude (key text : String) :
    Ensures board (Script.addInclude key text) Q ↔ Q [.register (.header key text)] () :=
  ensures_register _

@[simp] lemma ensures_addFunction (key text : String) :
    Ensures board (Script.addFunction key text) Q ↔ Q [.register (.function key text)] () :=
  ensures_register _

@[simp] lemma ensures_declare (key text : String) :
    Ensures board (Script.declare key text) Q ↔ Q [.register (.declaration key text)] () :=
  ensures_register _

@[simp] lemma ensures_addSetup (key text : String) (runFirst : Bool) :
    Ensures board (Script.addSetup key text runFirst) Q ↔
      Q [.register (.setup key text runFirst)] () :=
  ensures_register _

@[simp] lemma ensures_provide (function : String) (rs : List Registration) :
    Ensures board (Script.provide function rs) Q ↔ Q [.unlessDefined function rs] () :=
  ⟨fun h => h () trivial, fun h _ _ => h⟩

@[simp] lemma ensures_reserve (pin : String) (role : PinRole) (purpose : String) :
    Ensures board (Script.reserve pin role purpose) Q ↔ Q [] () :=
  ⟨fun h => h () trivial, fun h _ _ => h⟩

@[simp] lemma ensures_unit (pin : String) (mapper : Mapper) :
    Ensures board (Script.unit pin mapper) T ↔ T [] (unitName board pin mapper) :=
  ⟨fun h => h _ rfl, fun h _ ha => ha ▸ h⟩

@[simp] lemma ensures_bus {B : List Effect → BusPins → Prop} (name choice : String) :
    Ensures board (Script.bus name choice) B ↔
      B [] ((board.busPins? name (some choice)).getD .unconnected) :=
  ⟨fun h => h _ rfl, fun h _ ha => ha ▸ h⟩

@[simp] lemma ensures_value {V : List Effect → Option String → Prop} (socket : String)
    (slot : Level) : Ensures board (Script.value socket slot) V ↔ ∀ text, V [] text :=
  ⟨fun h text => h text trivial, fun h text _ => h text⟩

@[simp] lemma ensures_valueOr (socket : String) (slot : Level) (fallback : String) :
    Ensures board (Script.valueOr socket slot fallback) T ↔ ∀ text, T [] text := by
  rw [Script.valueOr, ensures_bind, ensures_value]
  exact ⟨fun h text => h (some text), fun h text => h (text.getD fallback)⟩

@[simp] lemma ensures_argumentOr (socket fallback : String) :
    Ensures board (Script.argumentOr socket fallback) T ↔ ∀ text, T [] text :=
  ensures_valueOr socket .argument fallback

@[simp] lemma ensures_body (socket : String) :
    Ensures board (Script.body socket) T ↔ ∀ text, T [] text :=
  ⟨fun h text => h text trivial, fun h text _ => h text⟩

@[simp] lemma ensures_callback (name : String) (params : List String) (socket : String) :
    Ensures board (Script.callback name params socket) Q ↔
      ∀ code, Q [.register (.function name (Code.functionText "void" name params code))] () := by
  rw [Script.callback, ensures_bind, ensures_body]
  simp only [ensures_addFunction, List.nil_append]

end Requests

/-- What all registrations of each script satisfy, those of the scripts in a row do. -/
lemma ensures_mapM {C : Effect → Prop} {f : β → Script α} {l : List β}
    (h : ∀ a ∈ l, Ensures board (f a) fun own _ => ∀ e ∈ own, C e) :
    Ensures board (l.mapM f) fun own _ => ∀ e ∈ own, C e := by
  induction l with
  | nil =>
    rw [List.mapM_nil, ensures_pure]
    simp
  | cons a l ih =>
    rw [List.mapM_cons, ensures_bind]
    refine (h a List.mem_cons_self).mono fun own _ hown => ?_
    rw [ensures_bind]
    refine (ih fun c hc => h c (List.mem_cons_of_mem a hc)).mono fun more _ hmore => ?_
    rw [ensures_pure, List.append_nil]
    exact List.forall_mem_append.mpr ⟨hown, hmore⟩

end Rules

/-! ### Runs at a site -/

section Sites

variable {s : Site Emit} {α : Type} {Q : List Effect → α → Prop}

lemma admits_answer (s : Site Emit) (r : Request) : Admits s.board r (s.answer r).result := by
  cases r with
  | unit pin mapper =>
    change (s.unit pin mapper).result = unitName s.board pin mapper
    unfold Site.unit unitName
    cases s.board.unit pin mapper <;> rfl
  | bus name choice =>
    change (s.bus name choice).result = _
    unfold Site.bus
    cases s.board.busPins? name (some choice) <;> rfl
  | _ => trivial

lemma registrations_subset (s : Site Emit) (r : Request) :
    registrations r ⊆ (s.answer r).effects := by
  cases r with
  | register r => exact List.Subset.refl _
  | provide function rs => exact List.Subset.refl _
  | _ => exact List.nil_subset _

theorem Ensures.run {x : Script α} (h : Ensures s.board x Q) :
    ∃ own, Q own (s.emit x).result ∧ own ⊆ (s.emit x).effects := by
  induction x generalizing Q with
  | done a => exact ⟨[], h, List.Subset.refl _⟩
  | ask r next ih =>
    obtain ⟨own, hown, heffects⟩ := ih _ (h _ (admits_answer s r))
    refine ⟨registrations r ++ own, hown, ?_⟩
    exact List.append_subset.mpr
      ⟨List.subset_append_of_subset_left _ (registrations_subset s r),
        List.subset_append_of_subset_right _ heffects⟩

/-- Properties of effects that reservations and warnings have. -/
structure Lax (C : Effect → Prop) : Prop where
  reserve : ∀ pin request, C (.reserve pin request)
  warn : ∀ w, C (.warn w)

variable {C : Effect → Prop}

lemma Lax.answer (hC : Lax C) (hvalue : ∀ socket slot, ∀ e ∈ (s.value socket slot).effects, C e)
    (hbody : ∀ socket, ∀ e ∈ (s.body socket).effects, C e) (r : Request) :
    ∀ e ∈ (s.answer r).effects, e ∈ registrations r ∨ C e := by
  intro e he
  cases r with
  | register r => exact .inl he
  | provide function rs => exact .inl he
  | reserve pin role purpose =>
    rw [List.mem_singleton.mp he]
    exact .inr (hC.reserve _ _)
  | unit pin mapper =>
    refine .inr ?_
    change e ∈ (s.unit pin mapper).effects at he
    unfold Site.unit at he
    cases hunit : s.board.unit pin mapper with
    | ok unit =>
      rw [hunit] at he
      cases he
    | error message =>
      rw [hunit] at he
      rw [List.mem_singleton.mp he]
      exact hC.warn _
  | bus name choice =>
    refine .inr ?_
    change e ∈ (s.bus name choice).effects at he
    unfold Site.bus at he
    cases hbus : s.board.busPins? name (some choice) with
    | some pins =>
      rw [hbus] at he
      cases he
    | none =>
      rw [hbus] at he
      rw [List.mem_singleton.mp he]
      exact hC.warn _
  | value socket slot => exact .inr (hvalue socket slot e he)
  | body socket => exact .inr (hbody socket e he)

/-- What the sockets' effects and the own registrations satisfy, all effects of a run do. -/
theorem Lax.run (hC : Lax C) (hvalue : ∀ socket slot, ∀ e ∈ (s.value socket slot).effects, C e)
    (hbody : ∀ socket, ∀ e ∈ (s.body socket).effects, C e) {x : Script α}
    (h : Ensures s.board x fun own _ => ∀ e ∈ own, C e) : ∀ e ∈ (s.emit x).effects, C e := by
  induction x with
  | done a => simp [Site.emit, Script.run]
  | ask r next ih =>
    have hnext := h _ (admits_answer s r)
    -- Some run of the rest exists, so the registrations of this request are among those of `h`.
    obtain ⟨own, hown, -⟩ := hnext.run
    intro e he
    rcases List.mem_append.mp he with he | he
    · rcases hC.answer hvalue hbody r e he with he | he
      · exact hown e (List.mem_append_left _ he)
      · exact he
    · refine ih _ (hnext.mono fun own _ hown e he => ?_) e he
      exact hown e (List.mem_append_right _ he)

end Sites

/-! ### Walks -/

section Walks

variable {C : Effect → Prop}

/-- Emissions all of whose effects satisfy `C`. -/
def effectwise (C : Effect → Prop) : Simulation Emit Emit where
  rel x _ := ∀ e ∈ x.effects, C e
  pure _ := by simp
  bind hx hf := by
    intro e he
    rcases List.mem_append.mp he with he | he
    · exact hx e he
    · exact hf _ e he

lemma Lax.warns (hC : Lax C) : (effectwise C).Warns := by
  intro b tag message _ e he
  rw [List.mem_singleton.mp he]
  exact hC.warn _

variable {g : Graph} {board : Board} {indent : String}

/-- What the registrations of all scripts satisfy, all effects of a walk do. -/
theorem Lax.emitWithin (hC : Lax C)
    (hkinds : ∀ (k : Kind) (b : Block), Ensures board (k.emit g b) fun own _ => ∀ e ∈ own, C e)
    (busy : List String) (b : Block) :
    ∀ e ∈ (g.emitWithin board indent busy b).effects, C e := by
  induction busy, b using Graph.walk_induction (g := g) with
  | inProgress busy b hb =>
    rw [Graph.emitWithin_of_mem hb]
    simp
  | unlisted busy b hb hk =>
    rw [Graph.emitWithin_of_unlisted hb hk, Emit.effects_bind, Emit.effects_pure, List.append_nil]
    exact hC.warns b _ _ (by decide)
  | listed busy b k hb hk ih =>
    have hchild : ∀ c hc, (effectwise C).rel (g.emitter board indent (b.id :: busy) c hc)
        (g.emitter board indent (b.id :: busy) c hc) := ih
    have hrun : ∀ e ∈ ((g.site board indent (g.emitter board indent (b.id :: busy)) b).emit
        (k.emit g b)).effects, C e := by
      refine hC.run ?_ ?_ (hkinds k b)
      · exact Simulation.socketValue_of_warns hC.warns hchild b
      · exact Simulation.socketBody hchild indent b
    rw [Graph.emitWithin_of_kind hb hk, Emit.effects_bind, Emit.effects_pure, List.append_nil]
    exact hrun

theorem Lax.emitBodies (hC : Lax C)
    (hkinds : ∀ (k : Kind) (b : Block), Ensures board (k.emit g b) fun own _ => ∀ e ∈ own, C e) :
    ∀ e ∈ (g.emitBodies (g.emitter board indent [])).effects, C e := by
  have hrel : (effectwise C).rel (g.emitBodies (g.emitter board indent []))
      (g.emitBodies (g.emitter board indent [])) :=
    Simulation.emitBodies fun c _ => hC.emitWithin hkinds [] c
  exact hrel

/-- An emitted block has run its script: what the script ensures holds of its code, and the
registrations are among the effects of the walk. -/
theorem ensured_of_emitted {b : Block} {fragment : Fragment} {k : Kind}
    (h : (b, fragment) ∈ emitted g board indent) (hk : b.kind? = some k)
    {Q : List Effect → Fragment → Prop} (hQ : Ensures board (k.emit g b) Q) :
    ∃ own, Q own fragment ∧ own ⊆ (g.emitBodies (g.emitter board indent [])).effects := by
  obtain ⟨busy, k', -, hk', hresult, heffects⟩ := accounted_of_emitted h
  obtain rfl : (scriptRun g board indent busy b k').result = fragment := hresult
  obtain rfl : k = k' := Option.some.inj (hk.symm.trans hk')
  obtain ⟨own, hown, hsubset⟩ :=
    Ensures.run (s := g.site board indent (g.emitter board indent (b.id :: busy)) b) hQ
  exact ⟨own, hown, fun e he => heffects (hsubset he)⟩

end Walks

end MbedBlocks.Proofs
