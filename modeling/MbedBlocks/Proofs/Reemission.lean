import MbedBlocks.Proofs.ScriptProfiles
import MbedBlocks.Proofs.StatefulWalk
import MbedBlocks.Proofs.Upserts

/-!
# Emitting a block again

A generator that emits a block a second time makes the same writes under the same keys. The pins
that the block claims are held by then, so the claims come out as they did: each meets the holder
that it met before, or the one that it made holder itself. What is registered on condition is there.
Nothing that the generator has collected changes.
-/

namespace MbedBlocks

lemma PinRole.compatible_self (role : PinRole) : role.compatible role = true := by
  simp [compatible]

namespace Reservations

variable {r R : Reservations} {pin : String} {request holder : Reservation}

/-- A claimed pin has a holder, the first that claimed it. -/
lemma get?_reserve_self (hpin : pin ≠ "") :
    (r.reserve pin request).get? pin = some ((r.get? pin).getD request) := by
  unfold reserve get? Dict.contains
  cases h : r.pins.get? pin with
  | none => simp [hpin, Dict.get?_insert_self]
  | some holder => simp [h]

lemma reserve_of_held (h : r.get? pin = some holder) (request : Reservation) :
    r.reserve pin request = r := by
  have hcontains : r.pins.contains pin := Option.isSome_iff_exists.mpr ⟨holder, h⟩
  exact if_pos (.inr hcontains)

lemma get?_reserve_of_held (h : r.get? pin = some holder) (pin' : String)
    (request : Reservation) : (r.reserve pin' request).get? pin = some holder := by
  by_cases hpin : pin = pin'
  · subst hpin
    rwa [reserve_of_held h]
  · unfold reserve
    split_ifs
    · exact h
    · change (r.pins.insert pin' request).get? pin = _
      rw [Dict.get?_insert, if_neg hpin]
      exact h

lemma policy_reserve (r : Reservations) (pin : String) (request : Reservation) :
    (r.reserve pin request).policy = r.policy := by
  unfold reserve
  split_ifs <;> rfl

/-- A claim conflicts with the holder that the pin has afterwards as it does with the one before: a
holder that the claim made does not conflict with it. -/
lemma conflictWarnings_eq (hpolicy : R.policy = r.policy)
    (hholder : R.get? pin = some ((r.get? pin).getD request)) :
    R.conflictWarnings pin request = r.conflictWarnings pin request := by
  unfold conflictWarnings
  rw [hholder, hpolicy]
  cases r.get? pin with
  | none => simp [PinRole.compatible_self]
  | some holder => rfl

end Reservations

lemma Context.eq_of_parts {c c' : Context} (hregistry : c.registry = c'.registry)
    (hreservations : c.reservations = c'.reservations) (hwarnings : c.warnings = c'.warnings) :
    c = c' := by
  cases c
  cases c'
  simp_all

namespace Proofs

/-! ### What effects do to reservations and warnings -/

def reservationStep (r : Reservations) : Effect → Reservations
  | .reserve pin request => r.reserve pin request
  | _ => r

/-- The warnings that an effect records. -/
def effectWarnings (board : Board) (r : Reservations) : Effect → List Warning
  | .reserve pin request => r.warnings board pin request
  | .warn w => [w]
  | _ => []

/-- The warnings that effects record one after the other. -/
def reported (board : Board) : Reservations → List Effect → List Warning
  | _, [] => []
  | r, e :: es => effectWarnings board r e ++ reported board (reservationStep r e) es

section Contexts

variable {r R : Reservations} {es : List Effect}

lemma reservations_apply (board : Board) (c : Context) (e : Effect) :
    (c.apply board e).reservations = reservationStep c.reservations e := by
  cases e with
  | unlessDefined function registrations =>
    rw [Context.apply]
    split_ifs <;> rfl
  | _ => rfl

lemma warnings_apply (board : Board) (c : Context) (e : Effect) :
    (c.apply board e).warnings =
      (effectWarnings board c.reservations e).foldl Context.record c.warnings := by
  cases e with
  | unlessDefined function registrations => exact warnings_unlessDefined board c _ _
  | _ => rfl

lemma reservations_applyAll (board : Board) (c : Context) (es : List Effect) :
    (c.applyAll board es).reservations = es.foldl reservationStep c.reservations := by
  induction es generalizing c with
  | nil => rfl
  | cons e es ih =>
    rw [List.foldl_cons, ← reservations_apply board]
    exact ih (c.apply board e)

lemma warnings_applyAll (board : Board) (c : Context) (es : List Effect) :
    (c.applyAll board es).warnings =
      (reported board c.reservations es).foldl Context.record c.warnings := by
  induction es generalizing c with
  | nil => rfl
  | cons e es ih =>
    rw [reported, List.foldl_append, ← reservations_apply board, ← warnings_apply]
    exact ih (c.apply board e)

/-! ### Claims of pins that are held -/

lemma get?_foldl_of_held {pin : String} {holder : Reservation} (h : r.get? pin = some holder)
    (es : List Effect) : (es.foldl reservationStep r).get? pin = some holder := by
  induction es generalizing r with
  | nil => exact h
  | cons e es ih =>
    cases e with
    | reserve pin' request => exact ih (Reservations.get?_reserve_of_held h pin' request)
    | _ => exact ih h

lemma policy_foldl (r : Reservations) (es : List Effect) :
    (es.foldl reservationStep r).policy = r.policy := by
  induction es generalizing r with
  | nil => rfl
  | cons e es ih =>
    cases e with
    | reserve pin request => exact (ih _).trans (r.policy_reserve pin request)
    | _ => exact ih r

/-- Reservations with the holders that the effects leave behind. -/
structure Outlasts (R r : Reservations) (es : List Effect) : Prop where
  policy : R.policy = r.policy
  holders : ∀ pin holder, (es.foldl reservationStep r).get? pin = some holder →
    R.get? pin = some holder

lemma outlasts_foldl (r : Reservations) (es : List Effect) :
    Outlasts (es.foldl reservationStep r) r es :=
  ⟨policy_foldl r es, fun _ _ h => h⟩

lemma Outlasts.tail {e : Effect} (h : Outlasts R r (e :: es)) :
    Outlasts R (reservationStep r e) es := by
  refine ⟨h.policy.trans ?_, h.holders⟩
  exact (policy_foldl r [e]).symm

/-- Step: an effect warns as it did, and its claim changes nothing. -/
lemma Outlasts.step (board : Board) {e : Effect} (h : Outlasts R r (e :: es)) :
    effectWarnings board R e = effectWarnings board r e ∧ reservationStep R e = R := by
  cases e with
  | reserve pin request =>
    change R.warnings board pin request = r.warnings board pin request ∧ R.reserve pin request = R
    by_cases hpin : pin = ""
    · simp [hpin, Reservations.warnings, Reservations.reserve]
    · have hholder : R.get? pin = some ((r.get? pin).getD request) :=
        h.holders pin _ (get?_foldl_of_held (Reservations.get?_reserve_self hpin) es)
      refine ⟨?_, Reservations.reserve_of_held hholder request⟩
      rw [Reservations.warnings, Reservations.warnings,
        Reservations.conflictWarnings_eq h.policy hholder]
  | _ => exact ⟨rfl, rfl⟩

/-- Run: so do all effects. -/
lemma Outlasts.replay (board : Board) (h : Outlasts R r es) :
    reported board R es = reported board r es ∧ es.foldl reservationStep R = R := by
  induction es generalizing r with
  | nil => exact ⟨rfl, rfl⟩
  | cons e es ih =>
    obtain ⟨hwarnings, hstep⟩ := h.step board
    obtain ⟨hreported, hrest⟩ := ih h.tail
    rw [reported, reported, List.foldl_cons, hwarnings, hstep]
    exact ⟨congrArg _ hreported, hrest⟩

end Contexts

/-! ### Registrations that have been made -/

section Registries

variable {r : Registry} {x : Registration} {e : Effect} {es : List Effect}

def registration? : Effect → Option Registration
  | .register x => some x
  | _ => none

/-- Every function that is registered on condition is there. -/
def Provided (r : Registry) (es : List Effect) : Prop :=
  ∀ function xs, .unlessDefined function xs ∈ es → (r.functions.get? function).isSome

/-- Where no condition is met any more, the plain registrations remain. -/
lemma foldl_registryStep_of_provided (h : Provided r es) :
    es.foldl registryStep r = (es.filterMap registration?).foldl Registry.add r := by
  induction es generalizing r with
  | nil => rfl
  | cons e es ih =>
    have hrest : Provided r es := fun function xs hmem =>
      h function xs (List.mem_cons_of_mem e hmem)
    cases e with
    | register x =>
      refine ih fun function xs hmem => ?_
      have hregistered : Registered r (.function function "") := hrest function xs hmem
      exact hregistered.add x
    | unlessDefined function xs =>
      have hdefined := h function xs List.mem_cons_self
      rw [List.foldl_cons, registryStep, if_pos hdefined]
      exact ih hrest
    | reserve pin request => exact ih hrest
    | warn w => exact ih hrest

lemma registered_addAll_of_mem {xs : List Registration} (hx : x ∈ xs) (r : Registry) :
    Registered (r.addAll xs) x := by
  obtain ⟨before, after, rfl⟩ := List.append_of_mem hx
  rw [Registry.addAll, List.foldl_append, List.foldl_cons]
  exact addAll_of_add (K := (Registered · x)) (fun _ y hx => hx.add y)
    (registered_add_self _ x) after

/-- A function that is registered on condition is there afterwards. -/
lemma provided_foldl (hes : ∀ e ∈ es, Standard e) (r : Registry) :
    Provided (es.foldl registryStep r) es := by
  intro function xs hmem
  obtain ⟨rfl, rfl⟩ := hes _ hmem
  obtain ⟨before, after, rfl⟩ := List.append_of_mem hmem
  rw [List.foldl_append, List.foldl_cons]
  have hdefined : Registered (registryStep (before.foldl registryStep r)
      (.unlessDefined NetworkKind.handler (NetworkKind.handlerRegistrations "")))
      (.function NetworkKind.handler "") := by
    rw [registryStep]
    split_ifs with hdefined
    · exact hdefined
    · have hmem : _ ∈ NetworkKind.handlerRegistrations "" :=
        List.mem_cons_of_mem _ (List.mem_singleton_self _)
      exact registered_addAll_of_mem hmem _
  exact hdefined.foldl after

lemma headers_unique : ∀ h ∈ headers, ∀ h' ∈ headers, h.1 = h'.1 → h = h' := by decide

/-- Of two registrations of a header under one key, either is as good as the other. -/
lemma absorbs_header {key text : String} (hx : registering.Absorbs r x)
    (hstandard : Standard (.register x)) (hmem : (key, text) ∈ headers) :
    registering.Absorbs (r.add (.header key text)) x := by
  by_cases hslot : (Registration.header key text).slot = x.slot
  · cases x with
    | header key' text' =>
      obtain rfl : key = key' := Registration.Slot.header.inj hslot
      obtain rfl : text = text' := congrArg Prod.snd (headers_unique _ hmem _ hstandard rfl)
      exact absorbs_add_self r _
    | _ => cases hslot
  · exact hx.write hslot

/-- Step: a registration stays in force unless another one is made in its slot. The command handler
is registered on condition when it is missing, and then no handler is in force. -/
lemma absorbs_step (hx : registering.Absorbs r x) (hstandard : Standard (.register x))
    (he : Standard e) (hslot : ∀ y, registration? e = some y → y.slot ≠ x.slot) :
    registering.Absorbs (registryStep r e) x := by
  cases e with
  | register y => exact hx.write (hslot y rfl)
  | unlessDefined function xs =>
    obtain ⟨rfl, rfl⟩ := he
    rw [registryStep]
    split_ifs with hdefined
    · exact hx
    · have hheader : registering.Absorbs (r.add (.header "string" "#include <string>")) x :=
        absorbs_header hx hstandard List.mem_cons_self
      refine hheader.write (b := .function _ _) fun heq => hdefined ?_
      have hhas := hx.has
      rw [← heq] at hhas
      exact hhas
  | reserve pin request => exact hx
  | warn w => exact hx

lemma absorbs_foldl (hx : registering.Absorbs r x) (hstandard : Standard (.register x))
    (hes : ∀ e ∈ es, Standard e) (hslot : ∀ y ∈ es.filterMap registration?, y.slot ≠ x.slot) :
    registering.Absorbs (es.foldl registryStep r) x := by
  induction es generalizing r with
  | nil => exact hx
  | cons e es ih =>
    have hstep := absorbs_step hx hstandard (hes e List.mem_cons_self) fun y hy =>
      hslot y (List.mem_filterMap.mpr ⟨e, List.mem_cons_self, hy⟩)
    refine ih hstep (fun e' he' => hes e' (List.mem_cons_of_mem e he')) fun y hy => ?_
    obtain ⟨e', he', hy⟩ := List.mem_filterMap.mp hy
    exact hslot y (List.mem_filterMap.mpr ⟨e', List.mem_cons_of_mem e he', hy⟩)

/-- Run: of the registrations in each slot, the last is in force. -/
lemma settled_registrations (hes : ∀ e ∈ es, Standard e) (r : Registry) :
    registering.Settled (es.foldl registryStep r) (es.filterMap registration?) := by
  induction es generalizing r with
  | nil => trivial
  | cons e es ih =>
    have hrest : ∀ e' ∈ es, Standard e' := fun e' he' => hes e' (List.mem_cons_of_mem e he')
    cases e with
    | register x =>
      refine ⟨?_, ih hrest (r.add x)⟩
      by_cases hover : ∃ y ∈ es.filterMap registration?, y.slot = x.slot
      · exact .inl hover
      · push Not at hover
        have hforce : registering.Absorbs (es.foldl registryStep (r.add x)) x :=
          absorbs_foldl (absorbs_add_self r x) (hes _ List.mem_cons_self) hrest hover
        exact .inr hforce
    | unlessDefined function xs => exact ih hrest _
    | reserve pin request => exact ih hrest r
    | warn w => exact ih hrest r

lemma foldl_registryStep_twice (hes : ∀ e ∈ es, Standard e) (r : Registry) :
    es.foldl registryStep (es.foldl registryStep r) = es.foldl registryStep r := by
  rw [foldl_registryStep_of_provided (provided_foldl hes r)]
  exact (settled_registrations hes r).replay

end Registries

/-! ### Contexts -/

section Twice

variable {board : Board} {es : List Effect}

/-- Effects of blocks that are worked in a second time leave a context as it is. -/
theorem applyAll_twice (hes : ∀ e ∈ es, Standard e) (c : Context) :
    (c.applyAll board es).applyAll board es = c.applyAll board es := by
  have hregistry : ((c.applyAll board es).applyAll board es).registry =
      (c.applyAll board es).registry := by
    simp only [registry_applyAll]
    exact foldl_registryStep_twice hes c.registry
  obtain ⟨hreported, hreservations⟩ := (outlasts_foldl c.reservations es).replay board
  have hwarnings : ((c.applyAll board es).applyAll board es).warnings =
      (c.applyAll board es).warnings := by
    rw [warnings_applyAll, reservations_applyAll, hreported, warnings_applyAll]
    exact recording.foldl_write_twice c.warnings _
  have hreservations : ((c.applyAll board es).applyAll board es).reservations =
      (c.applyAll board es).reservations := by
    rw [reservations_applyAll, reservations_applyAll, hreservations]
  exact Context.eq_of_parts hregistry hreservations hwarnings

variable {g : Graph} {indent : String}

lemma standard_emitWithin (busy : List String) (b : Block) :
    ∀ e ∈ (g.emitWithin board indent busy b).effects, Standard e := by
  have hlax : Lax Standard := ⟨fun _ _ => trivial, fun _ => trivial⟩
  refine hlax.emitWithin (fun k b => ?_) busy b
  exact (emit_profiled g b k).mono fun own fragment hprofile => hprofile.standard

end Twice

/-- A block that is emitted twice in a row, from whatever a generator has collected, becomes the
same code both times. The first time works the effects of the block in; the second time changes no
section, no reservation and no warning. -/
theorem block_twice (g : Graph) (board : Board) (indent : String) (c : Context)
    (visiting : Finset String) (b : Block) :
    ∃ fragment c', c' = c.applyAll board (g.emitWithin board indent visiting.toList b).effects ∧
      ∀ extra,
        Walk.block g board indent (nesting g visiting b + extra) b ⟨c, visiting⟩ =
          some (fragment, ⟨c', visiting⟩) ∧
        Walk.block g board indent (nesting g visiting b + extra) b ⟨c', visiting⟩ =
          some (fragment, ⟨c', visiting⟩) := by
  refine ⟨(g.emitWithin board indent visiting.toList b).result, _, rfl, fun extra => ?_⟩
  have hblock : Realizes visiting (g.emitWithin board indent visiting.toList b)
      (Walk.block g board indent (nesting g visiting b + extra) b) :=
    block_realizes (Finset.toList_toFinset visiting) (Nat.le_add_right _ extra)
  refine ⟨hblock c, ?_⟩
  rw [hblock, applyAll_twice (standard_emitWithin visiting.toList b)]

end Proofs

end MbedBlocks
