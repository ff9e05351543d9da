import MbedBlocks.Proofs.CompletedRuns
import MbedBlocks.Proofs.ScriptProfiles
import MbedBlocks.Proofs.Upserts

/-!
# Who registers last

A slot of the registry holds the text that was registered there last. A script that asks for no
socket once it has registered in a slot registers there after all the blocks inside it. So what the
program has in the slot is what the runs leave there one after the other, as they are completed, and
the text is that of the last block to be completed among those that register in the slot.
-/

namespace MbedBlocks

open Registration (Slot)

/-- The text in a slot. -/
def Registry.text? (r : Registry) : Slot → Option String
  | .header key => r.includes.get? key
  | .function key => r.functions.get? key
  | .declaration key => r.declarations.get? key
  | .setup key => r.setupText? key

lemma Registry.text?_add (r : Registry) (x : Registration) (slot : Slot) :
    (r.add x).text? slot = if x.slot = slot then some x.text else r.text? slot := by
  have hput {α : Type} (k : Keyed α) (key key' : String) (value : α) :
      (k.put key value).get? key' = if key = key' then some value else k.get? key' := by
    simp only [Keyed.get?_put, eq_comm]
  cases x <;> cases slot <;>
    simp [add, text?, setupText?, Registration.slot, Registration.text, hput,
      apply_ite (Option.map SetupEntry.text)]

namespace Proofs

open Code (Fragment)
open MbedBlocks.Graph (ChildEmitter)

/-! ### One slot -/

/-- What a slot that holds `before` holds after an effect. -/
def deposit (slot : Slot) (before : Option String) : Effect → Option String
  | .register x => if x.slot = slot then some x.text else before
  | .unlessDefined function xs =>
    if slot = .function function ∧ before = none then (Registry.addAll {} xs).text? slot
    else before
  | _ => before

/-- The effect does not write to the slot. -/
def Spares (slot : Slot) (e : Effect) : Prop := ∀ before, deposit slot before e = before

section Slots

variable {slot : Slot} {e : Effect} {es : List Effect} {r : Registry} {before : Option String}

lemma spares_register {x : Registration} (h : x.slot ≠ slot) : Spares slot (.register x) :=
  fun _ => if_neg h

lemma spares_unlessDefined {function : String} {xs : List Registration}
    (h : slot ≠ .function function) : Spares slot (.unlessDefined function xs) :=
  fun _ => if_neg fun hslot => h hslot.1

/-- Only registrations in the slot write to it, and those made on condition of its function. -/
lemma spares_of_ne (hregister : ∀ x, e = .register x → x.slot ≠ slot)
    (hprovide : ∀ function xs, e = .unlessDefined function xs → slot ≠ .function function) :
    Spares slot e := by
  cases e with
  | register x => exact spares_register (hregister x rfl)
  | unlessDefined function xs => exact spares_unlessDefined (hprovide function xs rfl)
  | reserve pin request => exact fun _ => rfl
  | warn w => exact fun _ => rfl

/-- Steps that change nothing leave in the end what was there first. -/
lemma foldl_kept {α β : Type} {step : β → α → β} {l : List α} {before : β}
    (h : ∀ a ∈ l, ∀ before, step before a = before) : l.foldl step before = before :=
  List.foldlRecOn (motive := (· = before)) l step rfl fun after hafter a ha =>
    (h a ha after).trans hafter

lemma foldl_deposit_of_spares (h : ∀ e ∈ es, Spares slot e) :
    es.foldl (deposit slot) before = before := foldl_kept h

/-- Step: an effect does to the slot what it does to the registry. The headers are left out, since
the registration on condition of one section depends on another. -/
lemma text?_registryStep (hslot : ∀ key, slot ≠ .header key) (he : Standard e) :
    (registryStep r e).text? slot = deposit slot (r.text? slot) e := by
  cases e with
  | register x => exact r.text?_add x slot
  | unlessDefined function xs =>
    obtain ⟨rfl, rfl⟩ := he
    have hheader : (Registration.header "string" "#include <string>").slot ≠ slot :=
      (hslot "string").symm
    by_cases hhandler : slot = .function NetworkKind.handler
    · subst hhandler
      change (if (r.text? (.function NetworkKind.handler)).isSome then r else _).text? _ = _
      cases hdefined : r.text? (.function NetworkKind.handler) with
      | none =>
        simp [deposit, Registry.addAll, NetworkKind.handlerRegistrations, Registry.text?_add,
          Registration.slot]
      | some text => simpa [deposit] using hdefined
    · have hfunction (text : String) :
          (Registration.function NetworkKind.handler text).slot ≠ slot := Ne.symm hhandler
      rw [spares_unlessDefined hhandler, registryStep]
      split_ifs
      · rfl
      · simp only [Registry.addAll, NetworkKind.handlerRegistrations, List.foldl_cons,
          List.foldl_nil, Registry.text?_add, if_neg hheader, if_neg (hfunction _)]
  | reserve pin request => rfl
  | warn w => rfl

/-- Run: so do all effects. -/
lemma text?_foldl (hslot : ∀ key, slot ≠ .header key) (hes : ∀ e ∈ es, Standard e) :
    (es.foldl registryStep r).text? slot = es.foldl (deposit slot) (r.text? slot) := by
  induction es generalizing r with
  | nil => rfl
  | cons e es ih =>
    rw [List.foldl_cons, List.foldl_cons, ← text?_registryStep hslot (hes e List.mem_cons_self)]
    exact ih fun e' he' => hes e' (List.mem_cons_of_mem e he')

end Slots

/-! ### Scripts that register late -/

/-- Once the script has written to the slot, it asks for no socket. -/
def Late (s : Site Emit) (slot : Slot) {α : Type} : Script α → Prop
  | .done _ => True
  | .ask r next =>
    ((∀ e ∈ registrations r, Spares slot e) ∨ Closed (next (s.answer r).result)) ∧
      Late s slot (next (s.answer r).result)

section Scripts

variable {s : Site Emit} {slot : Slot} {α : Type} {x : Script α}

lemma Closed.late (h : Closed x) : Late s slot x := by
  induction x with
  | done a => trivial
  | ask r next ih => exact ⟨.inr (h.2 _), ih _ (h.2 _)⟩

lemma late_of_spares (h : ∀ e ∈ ownRegistrations s x, Spares slot e) : Late s slot x := by
  induction x with
  | done a => trivial
  | ask r next ih =>
    obtain ⟨hr, hnext⟩ := List.forall_mem_append.mp h
    exact ⟨.inl hr, ih _ hnext⟩

lemma late_ask {r : Request} {next : r.Answer → Script α}
    (hr : ∀ e ∈ registrations r, Spares slot e) (hnext : ∀ answer, Late s slot (next answer)) :
    Late s slot (.ask r next) :=
  ⟨.inl hr, hnext _⟩

lemma late_register {x : Registration} {next : Unit → Script α} (hx : x.slot ≠ slot)
    (hnext : Late s slot (next ())) : Late s slot (.ask (.register x) next) :=
  late_ask (List.forall_mem_singleton.mpr (spares_register hx)) fun _ => hnext

/-- Beside the sockets, only the own registrations of a script write to a slot. -/
lemma foldl_deposit_answer {r : Request} (hr : ¬IsSocket r) (before : Option String) :
    (s.answer r).effects.foldl (deposit slot) before =
      (registrations r).foldl (deposit slot) before := by
  cases r with
  | register x => rfl
  | provide function xs => rfl
  | reserve pin role purpose => rfl
  | unit pin mapper =>
    change (s.unit pin mapper).effects.foldl _ _ = before
    unfold Site.unit
    cases s.board.unit pin mapper <;> rfl
  | bus name choice =>
    change (s.bus name choice).effects.foldl _ _ = before
    unfold Site.bus
    cases s.board.busPins? name (some choice) <;> rfl
  | value socket slot => exact absurd trivial hr
  | body socket => exact absurd trivial hr

lemma Closed.foldl_deposit (h : Closed x) (before : Option String) :
    (s.emit x).effects.foldl (deposit slot) before =
      (ownRegistrations s x).foldl (deposit slot) before := by
  induction x generalizing before with
  | done a => rfl
  | ask r next ih =>
    change ((s.answer r).effects ++ (s.emit (next (s.answer r).result)).effects).foldl _ _ =
      (registrations r ++ ownRegistrations s (next (s.answer r).result)).foldl _ _
    rw [List.foldl_append, List.foldl_append, foldl_deposit_answer h.1, ih _ (h.2 _)]

end Scripts

/-! ### What runs leave in a slot -/

section Walk

/-- What a slot that holds `before` holds after the registrations of a run. -/
def Run.leave (g : Graph) (board : Board) (indent : String) (slot : Slot) (before : Option String)
    (run : Run) : Option String :=
  (blockRegistrations g board indent run.busy run.block run.kind).foldl (deposit slot) before

variable {g : Graph} {board : Board} {indent : String} {slot : Slot}

/-- An emission and the same emission with a trace of the runs that wrote to the slot. -/
def leaving (g : Graph) (board : Board) (indent : String) (slot : Slot) :
    Simulation Emit Traced where
  rel x y := y.emission = x ∧ ∀ before, x.effects.foldl (deposit slot) before =
    y.runs.foldl (Run.leave g board indent slot) before
  pure a := ⟨rfl, fun _ => rfl⟩
  bind := by
    rintro α β x y f k ⟨rfl, hy⟩ hk
    have hrest : (fun a => (k a).emission) = f := funext fun a => (hk a).1
    refine ⟨congrArg (y.emission >>= ·) hrest, fun before => ?_⟩
    rw [Traced.runs_bind, Emit.effects_bind, List.foldl_append, List.foldl_append, hy]
    exact (hk _).2 _

lemma leaving_warns : (leaving g board indent slot).Warns :=
  fun _ _ _ _ => ⟨rfl, fun _ => rfl⟩

/-- A script that registers late writes to the slot after the runs in its sockets. -/
lemma Late.foldl_runs {s : Site Emit} {t : Site Traced} {α : Type} {x : Script α}
    (hanswer : ∀ r, (t.answer r).emission = s.answer r)
    (hsocket : ∀ r, IsSocket r → (leaving g board indent slot).rel (s.answer r) (t.answer r))
    (hlate : Late s slot x) (before : Option String) :
    (s.emit x).effects.foldl (deposit slot) before =
      (ownRegistrations s x).foldl (deposit slot)
        ((t.emit x).runs.foldl (Run.leave g board indent slot) before) := by
  induction x generalizing before with
  | done a => rfl
  | ask r next ih =>
    obtain ⟨hr, hnext⟩ := hlate
    have hruns : (t.emit (.ask r next)).runs =
        (t.answer r).runs ++ (t.emit (next (s.answer r).result)).runs := by
      rw [← hanswer r]
      rfl
    have heffects : (s.emit (.ask r next)).effects =
        (s.answer r).effects ++ (s.emit (next (s.answer r).result)).effects := rfl
    simp only [hruns, heffects, ownRegistrations, List.foldl_append]
    by_cases hkind : IsSocket r
    · -- The runs in the socket write first, the rest of the script follows.
      have hnone : registrations r = [] := by
        cases r with
        | value | body => rfl
        | _ => exact hkind.elim
      rw [ih _ hnext, (hsocket r hkind).2, hnone]
      rfl
    · rw [runs_answer hkind, foldl_deposit_answer hkind]
      rcases hr with hspares | hclosed
      · rw [foldl_deposit_of_spares hspares, foldl_deposit_of_spares hspares, ih _ hnext]
        rfl
      · -- No run is completed any more.
        rw [hclosed.runs_emit, hclosed.foldl_deposit]
        rfl

/-- All scripts register late in the slot. -/
def AllLate (g : Graph) (board : Board) (slot : Slot) : Prop :=
  ∀ s : Site Emit, s.board = board → ∀ b k, Late s slot (Kind.emit g b k)

theorem emitWithin_leaving (hlate : AllLate g board slot) (busy : List String) (b : Block) :
    (leaving g board indent slot).rel (g.emitWithin board indent busy b)
      (traceWithin g board indent busy b) := by
  induction busy, b using Graph.walk_induction (g := g) with
  | inProgress busy b hmem =>
    rw [Graph.emitWithin_of_mem hmem, traceWithin_of_mem hmem]
    exact (leaving g board indent slot).pure none
  | unlisted busy b hmem hk =>
    rw [Graph.emitWithin_of_unlisted hmem hk, traceWithin_of_unlisted hmem hk]
    refine (leaving g board indent slot).bind ?_ fun _ => (leaving g board indent slot).pure none
    exact leaving_warns b _ _ (by decide)
  | listed busy b k hmem hk ih =>
    refine ⟨emission_traceWithin busy b, fun before => ?_⟩
    have hchild : ∀ c hc, (leaving g board indent slot).rel
        (g.emitter board indent (b.id :: busy) c hc)
        (tracer g board indent (b.id :: busy) c hc) := ih
    have hsocket (r : Request) (hr : IsSocket r) : (leaving g board indent slot).rel
        ((g.site board indent (g.emitter board indent (b.id :: busy)) b).answer r)
        ((g.site board indent (tracer g board indent (b.id :: busy)) b).answer r) := by
      cases r with
      | value socket level =>
        exact Simulation.socketValue_of_warns leaving_warns hchild b socket level
      | body socket => exact Simulation.socketBody hchild indent b socket
      | _ => exact hr.elim
    have hrun := Late.foldl_runs (emission_answer busy b) hsocket
      (hlate (g.site board indent (g.emitter board indent (b.id :: busy)) b) rfl b k) before
    rw [Graph.emitWithin_of_kind hmem hk, traceWithin_of_kind hmem hk, Emit.effects_bind,
      Emit.effects_pure, List.append_nil]
    -- The run itself comes last in the trace, after those in its sockets.
    change _ = List.foldl _ _ (_ ++ [_])
    rw [List.foldl_append]
    exact hrun

lemma standard_emitBodies :
    ∀ e ∈ (g.emitBodies (g.emitter board indent [])).effects, Standard e := by
  have hlax : Lax Standard := ⟨fun _ _ => trivial, fun _ => trivial⟩
  exact hlax.emitBodies fun k b => (emit_profiled g b k).mono fun _ _ hprofile => hprofile.standard

/-- The slot of the program holds what the runs leave there. -/
theorem text?_eq_foldl_runs (hslot : ∀ key, slot ≠ .header key) (hlate : AllLate g board slot) :
    (finalRegistry g board indent).text? slot =
      (runs g board indent).foldl (Run.leave g board indent slot) none := by
  have hwalk : (leaving g board indent slot).rel (g.emitBodies (g.emitter board indent []))
      (g.emitBodies (tracer g board indent [])) :=
    Simulation.emitBodies fun c _ => emitWithin_leaving hlate [] c
  have hempty : ({} : Registry).text? slot = none := by cases slot <;> rfl
  rw [finalRegistry, text?_foldl hslot standard_emitBodies, hempty]
  exact hwalk.2 none

end Walk

/-! ### The last block -/

/-- The block is the last to be completed of those that have the property. -/
def LastEmitted (g : Graph) (board : Board) (indent : String) (P : Block → Prop) (b : Block) :
    Prop :=
  ∃ before fragment after, emitted g board indent = before ++ (b, fragment) :: after ∧ P b ∧
    ∀ entry ∈ after, ¬P entry.1

section Last

variable {g : Graph} {board : Board} {indent : String} {slot : Slot} {P : Block → Prop}
  {b : Block}

lemma exists_lastEmitted {entry : Block × Fragment} (h : entry ∈ emitted g board indent)
    (hP : P entry.1) : ∃ b, LastEmitted g board indent P b := by
  classical
  have hfound : ((emitted g board indent).reverse.find? fun e => P e.1).isSome :=
    List.find?_isSome.mpr ⟨entry, List.mem_reverse.mpr h, by simpa using hP⟩
  obtain ⟨⟨b, fragment⟩, hb⟩ := Option.isSome_iff_exists.mp hfound
  obtain ⟨hPb, after, before, hsplit, hafter⟩ := List.find?_eq_some_iff_append.mp hb
  refine ⟨b, before.reverse, fragment, after.reverse, ?_, by simpa using hPb, ?_⟩
  · rw [← List.reverse_reverse (emitted g board indent), hsplit]
    simp
  · intro e he
    simpa using hafter e (List.mem_reverse.mp he)

lemma LastEmitted.mem (h : LastEmitted g board indent P b) :
    ∃ fragment, (b, fragment) ∈ emitted g board indent := by
  obtain ⟨before, fragment, after, hsplit, -⟩ := h
  exact ⟨fragment, by simp [hsplit]⟩

lemma LastEmitted.property (h : LastEmitted g board indent P b) : P b := by
  obtain ⟨_, _, _, -, hb, -⟩ := h
  exact hb

variable (hslot : ∀ key, slot ≠ .header key) (hlate : AllLate g board slot)
  (hspares : ∀ run : Run, ¬P run.block → ∀ before, run.leave g board indent slot before = before)
include hslot hlate hspares

/-- If only blocks with the property write to the slot and it holds something, one of them was
emitted. -/
theorem exists_lastEmitted_of_text? {text : String}
    (h : (finalRegistry g board indent).text? slot = some text) :
    ∃ b, LastEmitted g board indent P b := by
  by_contra! hnone
  have hruns : ∀ run ∈ runs g board indent, ¬P run.block := by
    intro run hrun hP
    have hentry : run.entry g board indent ∈ emitted g board indent := by
      rw [emitted_eq_map_runs]
      exact List.mem_map_of_mem hrun
    obtain ⟨b, hb⟩ := exists_lastEmitted (P := P) hentry hP
    exact hnone b hb
  rw [text?_eq_foldl_runs hslot hlate,
    foldl_kept fun run hrun => hspares run (hruns run hrun)] at h
  cases h

/-- If only blocks with the property write to the slot, the last one leaves there what the program
has. -/
theorem LastEmitted.leaves (h : LastEmitted g board indent P b) :
    ∃ busy k before, Reached g busy b ∧ b.kind? = some k ∧
      (blockRegistrations g board indent busy b k).foldl (deposit slot) before =
        (finalRegistry g board indent).text? slot := by
  obtain ⟨first, fragment, later, hsplit, -, hlater⟩ := h
  rw [emitted_eq_map_runs] at hsplit
  obtain ⟨trace, rest, hruns, -, hrest⟩ := List.map_eq_append_iff.mp hsplit
  obtain ⟨run, trace', rfl, hentry, rfl⟩ := List.map_eq_cons_iff.mp hrest
  obtain rfl : run.block = b := congrArg Prod.fst hentry
  have hrun : run ∈ runs g board indent := by simp [hruns]
  have hkept : ∀ run' ∈ trace', ∀ before, run'.leave g board indent slot before = before :=
    fun run' hrun' => hspares run' (hlater _ (List.mem_map_of_mem hrun'))
  refine ⟨run.busy, run.kind, trace.foldl (Run.leave g board indent slot) none,
    reached_of_mem_runs hrun, run.listed, ?_⟩
  rw [text?_eq_foldl_runs hslot hlate, hruns, List.foldl_append, List.foldl_cons, foldl_kept hkept]
  rfl

end Last

end Proofs

end MbedBlocks
