import MbedBlocks.Proofs.WalkInvariants

/-!
# Contracts of scripts

A contract says what a script must see to when it makes a request, and what it may rely on in the
answer. A script that keeps its side at a site that keeps the other one yields what it promises, and
its effects come from requests that the contract allows.
-/

namespace MbedBlocks.Proofs

open Board (BusPins Mapper)
open Code (Level Fragment)

structure Contract where
  /-- What the script sees to. -/
  asks : Request → Prop
  /-- What it may rely on. -/
  answers : (r : Request) → r.Answer → Prop

/-- Under every answer that the contract allows, the script asks in accordance with it and its result
satisfies `Q`. -/
def Meets (K : Contract) {α : Type} : Script α → (α → Prop) → Prop
  | .done a, Q => Q a
  | .ask r next, Q => K.asks r ∧ ∀ answer, K.answers r answer → Meets K (next answer) Q

section Rules

variable {K : Contract} {α β : Type} {Q R : α → Prop}

lemma Meets.mono {x : Script α} (h : Meets K x Q) (hQ : ∀ a, Q a → R a) : Meets K x R := by
  induction x with
  | done a => exact hQ a h
  | ask r next ih => exact ⟨h.1, fun answer hanswer => ih answer (h.2 answer hanswer)⟩

@[simp] lemma meets_pure (a : α) : Meets K (pure a) Q ↔ Q a := Iff.rfl

@[simp] lemma meets_bind (x : Script β) (f : β → Script α) :
    Meets K (x >>= f) Q ↔ Meets K x fun a => Meets K (f a) Q := by
  induction x with
  | done a => exact Iff.rfl
  | ask r next ih =>
    refine and_congr_right fun _ => forall_congr' fun answer => imp_congr_right fun _ => ?_
    exact ih answer

@[simp] lemma meets_ite {c : Prop} [Decidable c] (x y : Script α) :
    Meets K (if c then x else y) Q ↔ (c → Meets K x Q) ∧ (¬c → Meets K y Q) := by
  split_ifs with h <;> simp [h]

/-- Scripts in a row, all of whose results satisfy `Q`. -/
lemma meets_mapM {f : β → Script α} {l : List β} (h : ∀ b ∈ l, Meets K (f b) Q) :
    Meets K (l.mapM f) fun results => ∀ a ∈ results, Q a := by
  induction l with
  | nil =>
    rw [List.mapM_nil, meets_pure]
    simp
  | cons b l ih =>
    rw [List.mapM_cons, meets_bind]
    refine (h b List.mem_cons_self).mono fun a ha => ?_
    rw [meets_bind]
    refine (ih fun c hc => h c (List.mem_cons_of_mem b hc)).mono fun results hresults => ?_
    rw [meets_pure]
    exact List.forall_mem_cons.mpr ⟨ha, hresults⟩

end Rules

/-- A site that answers in accordance with the contract whatever is asked in accordance with it, and
does so with effects in `C`. -/
structure Serves (K : Contract) (C : Effect → Prop) (s : Site Emit) : Prop where
  answer : ∀ r, K.asks r → K.answers r (s.answer r).result
  effects : ∀ r, K.asks r → ∀ e ∈ (s.answer r).effects, C e

/-- Step: one request and its answer; run: the whole script. -/
theorem Meets.run {K : Contract} {C : Effect → Prop} {s : Site Emit} (hs : Serves K C s) {α : Type}
    {x : Script α} {Q : α → Prop} (h : Meets K x Q) :
    Q (s.emit x).result ∧ ∀ e ∈ (s.emit x).effects, C e := by
  induction x with
  | done a => exact ⟨h, by simp [Site.emit, Script.run]⟩
  | ask r next ih =>
    obtain ⟨hask, hnext⟩ := h
    obtain ⟨hresult, heffects⟩ := ih _ (hnext _ (hs.answer r hask))
    exact ⟨hresult, List.forall_mem_append.mpr ⟨hs.effects r hask, heffects⟩⟩

end MbedBlocks.Proofs
