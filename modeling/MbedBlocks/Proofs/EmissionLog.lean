import MbedBlocks.Proofs.KindEntries
import MbedBlocks.Proofs.Simulation

/-!
# The blocks that are emitted

A second walk keeps a log beside the emission and notes every block with its code once that is
complete. Without the log it is the emission itself. An entry of the log stands for a run of the
script of its block, whose effects are among those of the whole walk.
-/

namespace MbedBlocks.Proofs

open Code (Fragment)
open MbedBlocks.Graph (ChildEmitter)

/-- An emission with the blocks whose code was completed on the way. -/
structure Logged (α : Type) where
  emission : Emit α
  finished : List (Block × Fragment)

namespace Logged

variable {α β : Type}

instance : Monad Logged where
  pure a := ⟨pure a, []⟩
  bind x f :=
    ⟨x.emission >>= fun a => (f a).emission,
      x.finished ++ (f x.emission.result).finished⟩

instance : LawfulMonad Logged :=
  LawfulMonad.mk' Logged
    (fun _ => by simp [Functor.map])
    (fun _ _ => rfl)
    (fun _ _ _ => by simp [bind])

instance : MonadEffect Logged := ⟨fun e => ⟨MonadEffect.perform e, []⟩⟩

def note (b : Block) (fragment : Fragment) : Logged Unit := ⟨pure (), [(b, fragment)]⟩

@[simp] lemma finished_pure (a : α) : (pure a : Logged α).finished = [] := rfl

@[simp] lemma finished_bind (x : Logged α) (f : α → Logged β) :
    (x >>= f).finished = x.finished ++ (f x.emission.result).finished := rfl

lemma finished_mapM (f : α → Logged β) (l : List α) :
    (l.mapM f).finished = l.flatMap fun a => (f a).finished := by
  induction l with
  | nil => rfl
  | cons a l ih =>
    rw [List.mapM_cons, finished_bind, finished_bind, ih, List.flatMap_cons, finished_pure,
      List.append_nil]

end Logged

/-- Emits a block like `Graph.emitWithin` and notes what is completed. -/
def logWithin (g : Graph) (board : Board) (indent : String) (busy : List String) (b : Block) :
    Logged (Option Fragment) :=
  if h : b.id ∈ busy then pure none
  else
    match b.kind? with
    | none => do
      Graph.warnUnknown b
      return none
    | some k => do
      let child : ChildEmitter Logged g := fun c hc =>
        have := Graph.depthBound_lt h hc
        logWithin g board indent (b.id :: busy) c
      let fragment ← (g.site board indent child b).emit (k.emit g b)
      Logged.note b fragment
      return some fragment
termination_by g.depthBound busy b

def logger (g : Graph) (board : Board) (indent : String) (busy : List String) :
    ChildEmitter Logged g := fun c _ =>
  logWithin g board indent busy c

/-- The blocks that the program of a graph is put together from, with their code. A block stands
there once for every time that it is emitted. -/
def emitted (g : Graph) (board : Board) (indent : String) : List (Block × Fragment) :=
  (g.emitBodies (logger g board indent [])).finished

variable {g : Graph} {board : Board} {indent : String} {busy : List String} {b : Block}

lemma logWithin_of_mem (h : b.id ∈ busy) : logWithin g board indent busy b = pure none := by
  rw [logWithin, dif_pos h]

lemma logWithin_of_unlisted (h : b.id ∉ busy) (hk : b.kind? = none) :
    logWithin g board indent busy b = (do Graph.warnUnknown b; return none) := by
  rw [logWithin, dif_neg h, hk]

lemma logWithin_of_kind {k : Kind} (h : b.id ∉ busy) (hk : b.kind? = some k) :
    logWithin g board indent busy b = (do
      let fragment ← (g.site board indent (logger g board indent (b.id :: busy)) b).emit (k.emit g b)
      Logged.note b fragment
      return some fragment) := by
  rw [logWithin, dif_neg h, hk]
  rfl

/-- The run of a block's script while the blocks in `busy` are in progress. -/
def scriptRun (g : Graph) (board : Board) (indent : String) (busy : List String) (b : Block)
    (k : Kind) : Emit Fragment :=
  (g.site board indent (g.emitter board indent (b.id :: busy)) b).emit (k.emit g b)

/-- The entry stands for a run of its block's script, and the effects of the run are among
`effects`. -/
def Accounted (g : Graph) (board : Board) (indent : String) (effects : List Effect)
    (entry : Block × Fragment) : Prop :=
  ∃ busy k, entry.1.id ∉ busy ∧ entry.1.kind? = some k ∧
    (scriptRun g board indent busy entry.1 k).result = entry.2 ∧
    (scriptRun g board indent busy entry.1 k).effects ⊆ effects

lemma Accounted.mono {effects more : List Effect} {entry : Block × Fragment}
    (h : Accounted g board indent effects entry) (hmore : effects ⊆ more) :
    Accounted g board indent more entry := by
  obtain ⟨busy, k, hbusy, hk, hresult, heffects⟩ := h
  exact ⟨busy, k, hbusy, hk, hresult, fun _ he => hmore (heffects he)⟩

/-- An emission and the same emission with a log that accounts for its entries. -/
def accounting (g : Graph) (board : Board) (indent : String) : Simulation Emit Logged where
  rel x y := y.emission = x ∧ ∀ entry ∈ y.finished, Accounted g board indent x.effects entry
  pure a := ⟨rfl, by simp⟩
  bind := by
    rintro α β x y f k ⟨rfl, hy⟩ hk
    have hrest : (fun a => (k a).emission) = f := funext fun a => (hk a).1
    refine ⟨congrArg (y.emission >>= ·) hrest, ?_⟩
    intro entry hentry
    rw [Emit.effects_bind]
    rcases List.mem_append.mp hentry with hentry | hentry
    · exact (hy entry hentry).mono (List.subset_append_left _ _)
    · exact ((hk _).2 entry hentry).mono (List.subset_append_right _ _)

lemma accounting_performs : (accounting g board indent).Performs := by
  intro e _
  exact ⟨rfl, fun entry hentry => by cases hentry⟩

theorem emitWithin_accounting (busy : List String) (b : Block) :
    (accounting g board indent).rel (g.emitWithin board indent busy b)
      (logWithin g board indent busy b) := by
  induction busy, b using Graph.walk_induction (g := g) with
  | inProgress busy b hb =>
    rw [Graph.emitWithin_of_mem hb, logWithin_of_mem hb]
    exact (accounting g board indent).pure none
  | unlisted busy b hb hk =>
    rw [Graph.emitWithin_of_unlisted hb hk, logWithin_of_unlisted hb hk]
    refine (accounting g board indent).bind ?_ fun _ => (accounting g board indent).pure none
    exact accounting_performs.warn b (by decide) _
  | listed busy b k hb hk ih =>
    have hchild : ∀ c hc, (accounting g board indent).rel
        (g.emitter board indent (b.id :: busy) c hc)
        (logger g board indent (b.id :: busy) c hc) := ih
    obtain ⟨hemission, hfinished⟩ :=
      Simulation.site accounting_performs hchild board indent b (k.emit g b)
    rw [Graph.emitWithin_of_kind hb hk, logWithin_of_kind hb hk]
    constructor
    · change (_ >>= fun fragment => pure (some fragment)) = _
      rw [hemission]
    · intro entry hentry
      rw [Logged.finished_bind, hemission] at hentry
      rcases List.mem_append.mp hentry with hentry | hentry
      · exact (hfinished entry hentry).mono (List.subset_append_left _ _)
      · -- The block itself is noted last, when all effects of its script are there.
        obtain rfl : entry = (b, (scriptRun g board indent busy b k).result) :=
          List.mem_singleton.mp hentry
        exact ⟨busy, k, hb, hk, rfl, List.subset_append_left _ _⟩

lemma emitBodies_accounting :
    (accounting g board indent).rel (g.emitBodies (g.emitter board indent []))
      (g.emitBodies (logger g board indent [])) :=
  Simulation.emitBodies fun c _ => emitWithin_accounting [] c

/-- Without its log, the second walk is the emission. -/
theorem emission_emitBodies :
    (g.emitBodies (logger g board indent [])).emission =
      g.emitBodies (g.emitter board indent []) :=
  emitBodies_accounting.1

theorem accounted_of_emitted {entry : Block × Fragment} (h : entry ∈ emitted g board indent) :
    Accounted g board indent (g.emitBodies (g.emitter board indent [])).effects entry :=
  emitBodies_accounting.2 entry h

/-! ### Top-level blocks are emitted -/

lemma mem_chain_self (h : g.get? b.id = some b) : b ∈ g.chain b.id := by
  unfold Graph.chain
  rw [Graph.chainFrom, dif_neg List.not_mem_nil]
  split
  next hnone =>
    rw [h] at hnone
    cases hnone
  next c hc =>
    obtain rfl : c = b := Option.some.inj (hc.symm.trans h)
    split <;> simp

lemma exists_mem_logWithin {k : Kind} (hb : b.id ∉ busy) (hk : b.kind? = some k) :
    ∃ fragment, (b, fragment) ∈ (logWithin g board indent busy b).finished := by
  rw [logWithin_of_kind hb hk]
  exact ⟨_, List.mem_append_right _ (List.mem_append_left _ (List.mem_singleton_self _))⟩

/-- A top-level statement block is emitted, if its id does not mean a later block. The frame is
not: its chains take its place. -/
theorem exists_mem_emitted {k : Kind} (htop : b ∈ g.topBlocks) (hself : g.get? b.id = some b)
    (hk : b.kind? = some k) (hframe : k ≠ .language .frame)
    (hshape : k.isValue = false) :
    ∃ fragment, (b, fragment) ∈ emitted g board indent := by
  obtain ⟨fragment, hfragment⟩ :
      ∃ fragment, (b, fragment) ∈ (logWithin g board indent [] b).finished :=
    exists_mem_logWithin List.not_mem_nil hk
  have hloose : g.emitTop (logger g board indent []) b (Graph.mem_of_mem_topBlocks htop) =
      g.emitLoose (logger g board indent []) b := by
    have hkind : b.kind ≠ framingName := fun h => hframe ((b.kind_eq_framingName_iff hk).mp h)
    rw [Graph.emitTop, if_neg hkind, b.any_isValue_of_kind hk, hshape]
    rfl
  have hchain : (b, fragment) ∈ (g.chainCode (logger g board indent []) b.id).finished := by
    rw [Graph.chainCode, Logged.finished_bind, Logged.finished_mapM]
    refine List.mem_append_left _ (List.mem_flatMap.mpr ?_)
    exact ⟨⟨b, mem_chain_self hself⟩, List.mem_attach _ _, hfragment⟩
  refine ⟨fragment, ?_⟩
  rw [emitted, Graph.emitBodies, Logged.finished_bind, Logged.finished_mapM]
  refine List.mem_append_left _ (List.mem_flatMap.mpr ?_)
  refine ⟨⟨b, htop⟩, List.mem_attach _ _, ?_⟩
  rw [hloose]
  exact List.mem_append_left _ hchain

end MbedBlocks.Proofs
