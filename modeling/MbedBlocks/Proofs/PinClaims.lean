import MbedBlocks.Board.Nucleo
import MbedBlocks.Proofs.Reemission

/-!
# Pins claimed in turn

Of the claims of a pin only the first is remembered, and yet no conflict is missed. Roles that may
share a pin stand for the same use of it, so two claims that exclude each other cannot both agree
with the first. A claim is answered by the holder that its pin has in the end: it meets that holder,
or becomes it.
-/

namespace MbedBlocks

namespace PinRole

/-- The use of a pin that a role stands for. An interrupt line is read like an input. -/
def use : PinRole → PinRole
  | interrupt => input
  | role => role

lemma compatible_iff {a b : PinRole} : a.compatible b = true ↔ a.use = b.use := by
  cases a <;> cases b <;> decide

lemma not_compatible_iff {a b : PinRole} : a.compatible b = false ↔ a.use ≠ b.use := by
  rw [← Bool.not_eq_true, compatible_iff]

end PinRole

/-- A call that asks for a pin. -/
structure Claim where
  pin : String
  request : Reservation
deriving DecidableEq

namespace Claim

/-- The first claim of a pin. -/
def first? (claims : List Claim) (pin : String) : Option Claim :=
  claims.find? fun c => c.pin == pin

/-- The pins that are claimed. Nothing is claimed by the empty name. -/
def pins (claims : List Claim) : Finset String := (claims.map pin).toFinset.erase ""

variable {claims : List Claim} {pin : String}

lemma first?_cons (c : Claim) (claims : List Claim) (pin : String) :
    first? (c :: claims) pin = if c.pin = pin then some c else first? claims pin := by
  by_cases h : c.pin = pin
  · rw [if_pos h]
    exact List.find?_cons_of_pos (beq_iff_eq.mpr h)
  · rw [if_neg h]
    exact List.find?_cons_of_neg (mt beq_iff_eq.mp h)

lemma mem_of_first? {c : Claim} (h : first? claims pin = some c) : c ∈ claims ∧ c.pin = pin :=
  ⟨List.mem_of_find?_eq_some h, by simpa using List.find?_some h⟩

lemma exists_first? {c : Claim} (hc : c ∈ claims) : ∃ first, first? claims c.pin = some first :=
  Option.isSome_iff_exists.mp (List.find?_isSome.mpr ⟨c, hc, by simp⟩)

lemma mem_pins : pin ∈ pins claims ↔ pin ≠ "" ∧ (first? claims pin).isSome := by
  unfold pins first?
  rw [Finset.mem_erase, List.mem_toFinset, List.find?_isSome, List.mem_map]
  simp

end Claim

namespace Reservations

def fresh (policy : ReservationPolicy) : Reservations := { policy }

/-- The reservations after claims made one after the other. -/
def claimAll (r : Reservations) (claims : List Claim) : Reservations :=
  claims.foldl (fun r c => r.reserve c.pin c.request) r

/-- Claims made one after the other, each with the warnings that it causes. -/
def answers (board : Board) : Reservations → List Claim → List (Claim × List Warning)
  | _, [] => []
  | r, c :: claims =>
    (c, r.warnings board c.pin c.request) :: answers board (r.reserve c.pin c.request) claims

variable {r : Reservations} {board : Board} {pin : String} {request : Reservation}

/-! ### Who holds a pin -/

lemma get?_reserve (r : Reservations) (pin : String) (request : Reservation) {pin' : String}
    (hpin' : pin' ≠ "") :
    (r.reserve pin request).get? pin' =
      (r.get? pin').or (if pin = pin' then some request else none) := by
  split_ifs with h
  · subst h
    rw [get?_reserve_self hpin']
    cases r.get? pin <;> rfl
  · rw [Option.or_none, reserve]
    split_ifs
    · rfl
    · exact (r.pins.get?_insert pin pin' request).trans (if_neg (Ne.symm h))

lemma get?_reserve_empty (r : Reservations) (pin : String) (request : Reservation) :
    (r.reserve pin request).get? "" = r.get? "" := by
  unfold reserve
  split_ifs with h
  · rfl
  · exact (r.pins.get?_insert pin "" request).trans (if_neg fun hpin => h (.inl hpin.symm))

/-- Run: a pin that nobody holds goes to its first claim. -/
lemma get?_claimAll (r : Reservations) (claims : List Claim) (hpin : pin ≠ "") :
    (r.claimAll claims).get? pin =
      (r.get? pin).or ((Claim.first? claims pin).map Claim.request) := by
  induction claims generalizing r with
  | nil => exact (Option.or_none).symm
  | cons c claims ih =>
    have hrest : r.claimAll (c :: claims) = (r.reserve c.pin c.request).claimAll claims := rfl
    rw [hrest, ih, get?_reserve r c.pin c.request hpin, Claim.first?_cons, Option.or_assoc]
    split_ifs <;> rfl

lemma get?_claimAll_empty (r : Reservations) (claims : List Claim) :
    (r.claimAll claims).get? "" = r.get? "" := by
  induction claims generalizing r with
  | nil => rfl
  | cons c claims ih => exact (ih _).trans (r.get?_reserve_empty c.pin c.request)

lemma policy_claimAll (r : Reservations) (claims : List Claim) :
    (r.claimAll claims).policy = r.policy := by
  induction claims generalizing r with
  | nil => rfl
  | cons c claims ih => exact (ih _).trans (r.policy_reserve c.pin c.request)

lemma get?_fresh (policy : ReservationPolicy) (claims : List Claim) (pin : String) :
    ((fresh policy).claimAll claims).get? pin =
      if pin = "" then none else (Claim.first? claims pin).map Claim.request := by
  split_ifs with hpin
  · rw [hpin, get?_claimAll_empty]
    rfl
  · rw [get?_claimAll _ _ hpin]
    rfl

lemma size_fresh (policy : ReservationPolicy) (claims : List Claim) :
    ((fresh policy).claimAll claims).pins.size = (Claim.pins claims).card := by
  rw [← Dict.card_keys]
  congr 1
  ext pin
  have hget : ((fresh policy).claimAll claims).pins.get? pin = _ := get?_fresh policy claims pin
  rw [List.mem_toFinset, Dict.mem_keys_iff, hget, Claim.mem_pins]
  split_ifs with hpin <;> simp [hpin]

/-! ### How claims are answered -/

/-- Step: a claim warns as it would when all that follow have been made. -/
lemma warnings_claimAll_cons (board : Board) (r : Reservations) (c : Claim) (claims : List Claim) :
    (r.claimAll (c :: claims)).warnings board c.pin c.request =
      r.warnings board c.pin c.request := by
  unfold warnings
  split_ifs with hpin
  · rfl
  · have hholder : (r.claimAll (c :: claims)).get? c.pin =
        some ((r.get? c.pin).getD c.request) := by
      have hrest : r.claimAll (c :: claims) = (r.reserve c.pin c.request).claimAll claims := rfl
      rw [hrest, get?_claimAll _ _ hpin, get?_reserve_self hpin, Option.some_or]
    rw [conflictWarnings_eq (policy_claimAll r _) hholder]

/-- Run: all claims are answered by the reservations that they lead to. -/
theorem answers_eq (board : Board) (r : Reservations) (claims : List Claim) :
    r.answers board claims =
      claims.map fun c => (c, (r.claimAll claims).warnings board c.pin c.request) := by
  induction claims generalizing r with
  | nil => rfl
  | cons c claims ih =>
    rw [answers, List.map_cons, warnings_claimAll_cons, ih]
    rfl

lemma pinConflict_iff : Tag.pinConflict ∈ (r.warnings board pin request).map Warning.tag ↔
    pin ≠ "" ∧ r.policy = .strict ∧
      ∃ holder, r.get? pin = some holder ∧ holder.role.compatible request.role = false := by
  have hunknown :
      Tag.pinConflict ∉ (unknownPinWarnings board request.blockId pin).map Warning.tag := by
    unfold unknownPinWarnings
    split_ifs <;> simp [Tag.pinConflict, Tag.unknownResource]
  have hconflict : Tag.pinConflict ∈ (r.conflictWarnings pin request).map Warning.tag ↔
      r.policy = .strict ∧
        ∃ holder, r.get? pin = some holder ∧ holder.role.compatible request.role = false := by
    unfold conflictWarnings
    cases r.get? pin with
    | none => simp
    | some holder =>
      by_cases h : r.policy = .strict ∧ !holder.role.compatible request.role <;>
        simp_all [Warning.ofError]
  unfold warnings
  split_ifs with hpin
  · simp [hpin]
  · rw [List.map_append, List.mem_append, hconflict]
    simp [hunknown, hpin]

lemma unknownResource_iff : Tag.unknownResource ∈ (r.warnings board pin request).map Warning.tag ↔
    pin ≠ "" ∧ ∀ category ∈ Board.Category.ofPins, pin ∉ board.optionValues category := by
  have hconflict : Tag.unknownResource ∉ (r.conflictWarnings pin request).map Warning.tag := by
    unfold conflictWarnings
    cases r.get? pin with
    | none => simp
    | some holder =>
      dsimp only
      split_ifs <;> simp [Warning.ofError, Tag.pinConflict, Tag.unknownResource]
  have hunknown :
      Tag.unknownResource ∈ (unknownPinWarnings board request.blockId pin).map Warning.tag ↔
        board.knowsPin pin = false := by
    unfold unknownPinWarnings
    split_ifs with h <;> simp [h]
  unfold warnings
  split_ifs with hpin
  · simp [hpin]
  · rw [List.map_append, List.mem_append, hunknown]
    simp [hconflict, hpin, Board.knowsPin, Board.hasOption]

end Reservations

/-- The claims want one pin for roles that exclude each other. -/
structure Claim.Excludes (c d : Claim) : Prop where
  named : c.pin ≠ ""
  pin : d.pin = c.pin
  roles : c.request.role.compatible d.request.role = false

namespace Proofs

open Reservations (fresh)

/-- Some of the claims warns under the tag. -/
def Reports (policy : ReservationPolicy) (board : Board) (claims : List Claim) (tag : String) :
    Prop :=
  ∃ answer ∈ (fresh policy).answers board claims, tag ∈ answer.2.map Warning.tag

section Answers

variable {policy : ReservationPolicy} {board : Board} {claims : List Claim}
  {answer : Claim × List Warning}

lemma mem_answers_iff : answer ∈ (fresh policy).answers board claims ↔
    answer.1 ∈ claims ∧ answer.2 =
      ((fresh policy).claimAll claims).warnings board answer.1.pin answer.1.request := by
  obtain ⟨c, ws⟩ := answer
  rw [Reservations.answers_eq, List.mem_map]
  constructor
  · rintro ⟨d, hd, heq⟩
    obtain ⟨rfl, rfl⟩ := Prod.mk.inj heq
    exact ⟨hd, rfl⟩
  · rintro ⟨hc, hws⟩
    exact ⟨c, hc, Prod.ext rfl hws.symm⟩

/-- A claim conflicts exactly if its pin was first claimed for a role that excludes its own. -/
lemma conflict_iff_first (h : answer ∈ (fresh policy).answers board claims) :
    Tag.pinConflict ∈ answer.2.map Warning.tag ↔ policy = .strict ∧
      ∃ first, Claim.first? claims answer.1.pin = some first ∧ first.Excludes answer.1 := by
  rw [(mem_answers_iff.mp h).2, Reservations.pinConflict_iff, Reservations.policy_claimAll,
    Reservations.get?_fresh]
  constructor
  · rintro ⟨hpin, hpolicy, holder, hholder, hroles⟩
    rw [if_neg hpin] at hholder
    obtain ⟨first, hfirst, rfl⟩ := Option.map_eq_some_iff.mp hholder
    have hsame := (Claim.mem_of_first? hfirst).2
    exact ⟨hpolicy, first, hfirst, hsame ▸ hpin, hsame.symm, hroles⟩
  · rintro ⟨hpolicy, first, hfirst, hexcludes⟩
    have hpin : answer.1.pin ≠ "" := hexcludes.pin ▸ hexcludes.named
    refine ⟨hpin, hpolicy, first.request, ?_, hexcludes.roles⟩
    rw [if_neg hpin, hfirst]
    rfl

/-- Two claims that exclude each other stand for different uses of the pin, so one of them differs
from the first. -/
lemma exists_excluded_by_first {c d : Claim} (hc : c ∈ claims) (hd : d ∈ claims)
    (h : c.Excludes d) :
    ∃ e ∈ claims, ∃ first, Claim.first? claims e.pin = some first ∧ first.Excludes e := by
  obtain ⟨first, hfirst⟩ := Claim.exists_first? hc
  have hpin := (Claim.mem_of_first? hfirst).2
  have hnamed : first.pin ≠ "" := hpin ▸ h.named
  have huses : c.request.role.use ≠ d.request.role.use := PinRole.not_compatible_iff.mp h.roles
  by_cases hfirstUse : first.request.role.use = c.request.role.use
  · refine ⟨d, hd, first, h.pin ▸ hfirst, hnamed, h.pin.trans hpin.symm, ?_⟩
    exact PinRole.not_compatible_iff.mpr (hfirstUse ▸ huses)
  · exact ⟨c, hc, first, hfirst, hnamed, hpin.symm, PinRole.not_compatible_iff.mpr hfirstUse⟩

lemma reports_conflict_iff :
    Reports .strict board claims Tag.pinConflict ↔ ∃ c ∈ claims, ∃ d ∈ claims, c.Excludes d := by
  constructor
  · rintro ⟨answer, hanswer, htag⟩
    obtain ⟨-, first, hfirst, hexcludes⟩ := (conflict_iff_first hanswer).mp htag
    exact ⟨first, (Claim.mem_of_first? hfirst).1, answer.1, (mem_answers_iff.mp hanswer).1,
      hexcludes⟩
  · rintro ⟨c, hc, d, hd, hexcludes⟩
    obtain ⟨e, he, hfirst⟩ := exists_excluded_by_first hc hd hexcludes
    have hanswer : (e, ((fresh .strict).claimAll claims).warnings board e.pin e.request) ∈
        (fresh .strict).answers board claims := mem_answers_iff.mpr ⟨he, rfl⟩
    exact ⟨_, hanswer, (conflict_iff_first hanswer).mpr ⟨rfl, hfirst⟩⟩

end Answers

/-- Claims of pins, made one after the other. The first claim of a pin holds it for good, and as
many pins are held as have been claimed. Under the strict policy a claim conflicts exactly if the
first claim of its pin excludes it, and some claim conflicts exactly if two of them exclude each
other, in whatever order they come; under the permissive policy none does. A claim names an unknown
pin exactly if no category of pins has it. -/
theorem conflicts_found_by_first_claims (board : Board) (claims : List Claim) :
    (∀ policy pin, ((fresh policy).claimAll claims).get? pin =
      if pin = "" then none else (Claim.first? claims pin).map Claim.request) ∧
    (∀ policy pin first, pin ≠ "" → Claim.first? claims pin = some first → ∀ more,
      ((fresh policy).claimAll (claims ++ more)).get? pin = some first.request) ∧
    (∀ policy, ((fresh policy).claimAll claims).pins.size = (Claim.pins claims).card) ∧
    (∀ policy, ((fresh policy).answers board claims).map Prod.fst = claims) ∧
    (∀ answer ∈ (fresh .strict).answers board claims,
      Tag.pinConflict ∈ answer.2.map Warning.tag ↔
        ∃ first, Claim.first? claims answer.1.pin = some first ∧ first.Excludes answer.1) ∧
    (Reports .strict board claims Tag.pinConflict ↔
      ∃ c ∈ claims, ∃ d ∈ claims, c.Excludes d) ∧
    (∀ claims', claims.Perm claims' →
      (Reports .strict board claims Tag.pinConflict ↔
        Reports .strict board claims' Tag.pinConflict)) ∧
    ¬Reports .permissive board claims Tag.pinConflict ∧
    (∀ policy, ∀ answer ∈ (fresh policy).answers board claims,
      Tag.unknownResource ∈ answer.2.map Warning.tag ↔
        answer.1.pin ≠ "" ∧
          ∀ category ∈ Board.Category.ofPins, answer.1.pin ∉ board.optionValues category) := by
  refine ⟨fun policy pin => Reservations.get?_fresh policy claims pin, ?_,
    fun policy => Reservations.size_fresh policy claims, ?_, ?_, reports_conflict_iff, ?_, ?_, ?_⟩
  · intro policy pin first hpin hfirst more
    have hextended : Claim.first? (claims ++ more) pin = some first := by
      unfold Claim.first? at hfirst ⊢
      rw [List.find?_append, hfirst, Option.some_or]
    rw [Reservations.get?_fresh, if_neg hpin, hextended]
    rfl
  · intro policy
    rw [Reservations.answers_eq, List.map_map]
    exact List.map_id claims
  · intro answer hanswer
    rw [conflict_iff_first hanswer]
    exact and_iff_right rfl
  · intro claims' hperm
    simp only [reports_conflict_iff, hperm.mem_iff]
  · rintro ⟨answer, hanswer, htag⟩
    cases ((conflict_iff_first hanswer).mp htag).1
  · intro policy answer hanswer
    rw [(mem_answers_iff.mp hanswer).2]
    exact Reservations.unknownResource_iff

def lampClaim : Claim := { pin := "PA_6", request := ⟨"lamp", .output, "digital write"⟩ }

def dimmerClaim : Claim := { pin := "PA_6", request := ⟨"dimmer", .pwm, "pwm"⟩ }

/-- A button read and watched, a lamp and a dimmer on one pin, a pin that the board does not have
and a block without a pin. -/
def workbench : List Claim :=
  [{ pin := "PC_13", request := ⟨"button", .interrupt, "interrupt"⟩ },
   { pin := "", request := ⟨"loose", .servo, "servo"⟩ },
   lampClaim,
   { pin := "PC_13", request := ⟨"reader", .input, "digital read"⟩ },
   { pin := "P0_1", request := ⟨"probe", .input, "digital read"⟩ },
   dimmerClaim]

theorem conflicts_found_by_first_claims_workbench :
    Claim.first? workbench "PA_6" = some lampClaim ∧ lampClaim.Excludes dimmerClaim ∧
      (∀ more, ((fresh .permissive).claimAll (workbench ++ more)).get? "PA_6" =
        some lampClaim.request) ∧
      ((fresh .strict).claimAll workbench).pins.size = 3 ∧
      Reports .strict Board.Nucleo.profile workbench Tag.pinConflict ∧
      Reports .strict Board.Nucleo.profile workbench.reverse Tag.pinConflict ∧
      ¬Reports .permissive Board.Nucleo.profile workbench Tag.pinConflict ∧
      ∀ answer ∈ (fresh .strict).answers Board.Nucleo.profile workbench,
        Tag.pinConflict ∈ answer.2.map Warning.tag ↔
          ∃ first, Claim.first? workbench answer.1.pin = some first ∧ first.Excludes answer.1 := by
  have hfirst : Claim.first? workbench "PA_6" = some lampClaim := rfl
  have hexcludes : lampClaim.Excludes dimmerClaim := ⟨by decide, rfl, rfl⟩
  obtain ⟨-, hheld, hsize, -, hconflict, hreports, hperm, hpermissive, -⟩ :=
    conflicts_found_by_first_claims Board.Nucleo.profile workbench
  have hreported : Reports .strict Board.Nucleo.profile workbench Tag.pinConflict :=
    hreports.mpr ⟨lampClaim, by decide, dimmerClaim, by decide, hexcludes⟩
  refine ⟨hfirst, hexcludes, hheld .permissive "PA_6" lampClaim (by decide) hfirst,
    (hsize .strict).trans (by decide), hreported, ?_, hpermissive, hconflict⟩
  exact (hperm workbench.reverse workbench.reverse_perm.symm).mp hreported

end Proofs

end MbedBlocks
