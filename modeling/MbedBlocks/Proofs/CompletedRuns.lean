import MbedBlocks.Proofs.AcyclicGraphs
import MbedBlocks.Proofs.EmissionLog

/-!
# Completed runs

A walk that keeps a trace beside the emission: every run of a block's script is noted when it is
over, with the blocks that were in progress. So the trace tells, also in a graph with cycles, which
code each run had in its sockets. All runs are reached from the top by going inside of blocks whose
scripts ask for sockets; so a block that asks for none is never in progress.
-/

namespace MbedBlocks.Proofs

open Code (Fragment Level)
open MbedBlocks.Graph (ChildEmitter)

/-- A run of a block's script while the blocks in `busy` are in progress. -/
structure Run where
  busy : List String
  block : Block
  kind : Kind
  listed : block.kind? = some kind

/-- An emission with the runs that were completed on the way. -/
structure Traced (α : Type) where
  emission : Emit α
  runs : List Run

namespace Traced

variable {α β : Type}

instance : Monad Traced where
  pure a := ⟨pure a, []⟩
  bind x f :=
    ⟨x.emission >>= fun a => (f a).emission, x.runs ++ (f x.emission.result).runs⟩

instance : LawfulMonad Traced :=
  LawfulMonad.mk' Traced
    (fun _ => by simp [Functor.map])
    (fun _ _ => rfl)
    (fun _ _ _ => by simp [bind])

instance : MonadEffect Traced := ⟨fun e => ⟨MonadEffect.perform e, []⟩⟩

def note (run : Run) : Traced Unit := ⟨pure (), [run]⟩

@[simp] lemma runs_bind (x : Traced α) (f : α → Traced β) :
    (x >>= f).runs = x.runs ++ (f x.emission.result).runs := rfl

end Traced

/-- Emits a block like `Graph.emitWithin` and notes the runs. -/
def traceWithin (g : Graph) (board : Board) (indent : String) (busy : List String) (b : Block) :
    Traced (Option Fragment) :=
  if h : b.id ∈ busy then pure none
  else
    match hk : b.kind? with
    | none => do
      Graph.warnUnknown b
      return none
    | some k => do
      let child : ChildEmitter Traced g := fun c hc =>
        have := Graph.depthBound_lt h hc
        traceWithin g board indent (b.id :: busy) c
      let fragment ← (g.site board indent child b).emit (k.emit g b)
      Traced.note ⟨busy, b, k, hk⟩
      return some fragment
termination_by g.depthBound busy b

def tracer (g : Graph) (board : Board) (indent : String) (busy : List String) :
    ChildEmitter Traced g := fun c _ =>
  traceWithin g board indent busy c

/-- The runs that the program of a graph is put together from, in the order in which they are
completed. -/
def runs (g : Graph) (board : Board) (indent : String) : List Run :=
  (g.emitBodies (tracer g board indent [])).runs

section Trace

variable {g : Graph} {board : Board} {indent : String} {busy : List String} {b : Block}

lemma traceWithin_of_mem (h : b.id ∈ busy) : traceWithin g board indent busy b = pure none := by
  rw [traceWithin, dif_pos h]

lemma traceWithin_of_unlisted (h : b.id ∉ busy) (hk : b.kind? = none) :
    traceWithin g board indent busy b = (do Graph.warnUnknown b; return none) := by
  rw [traceWithin, dif_neg h]
  split
  next => rfl
  next k hk' =>
    rw [hk] at hk'
    cases hk'

lemma traceWithin_of_kind {k : Kind} (h : b.id ∉ busy) (hk : b.kind? = some k) :
    traceWithin g board indent busy b = (do
      let fragment ←
        (g.site board indent (tracer g board indent (b.id :: busy)) b).emit (k.emit g b)
      Traced.note ⟨busy, b, k, hk⟩
      return some fragment) := by
  rw [traceWithin, dif_neg h]
  split
  next hnone =>
    rw [hk] at hnone
    cases hnone
  next k' hk' =>
    obtain rfl : k = k' := Option.some.inj (hk.symm.trans hk')
    rfl

/-- An emission and the same emission with a trace. -/
def untraced : Simulation Emit Traced where
  rel x y := y.emission = x
  pure _ := rfl
  bind := by
    rintro α β x y f k rfl hk
    exact congrArg (y.emission >>= ·) (funext hk)

lemma untraced_performs : untraced.Performs := fun _ _ => rfl

/-- The trace does not change the emission. -/
theorem emission_traceWithin (busy : List String) (b : Block) :
    (traceWithin g board indent busy b).emission = g.emitWithin board indent busy b := by
  induction busy, b using Graph.walk_induction (g := g) with
  | inProgress busy b hb =>
    rw [Graph.emitWithin_of_mem hb, traceWithin_of_mem hb]
    rfl
  | unlisted busy b hb hk =>
    rw [Graph.emitWithin_of_unlisted hb hk, traceWithin_of_unlisted hb hk]
    rfl
  | listed busy b k hb hk ih =>
    have hchild : ∀ c hc, untraced.rel (g.emitter board indent (b.id :: busy) c hc)
        (tracer g board indent (b.id :: busy) c hc) := ih
    have hsite : untraced.rel (scriptRun g board indent busy b k) _ :=
      Simulation.site untraced_performs hchild board indent b (k.emit g b)
    rw [Graph.emitWithin_of_kind hb hk, traceWithin_of_kind hb hk]
    change (_ >>= fun fragment => pure (some fragment)) = _
    rw [hsite]
    rfl

/-- Sites with and without a trace answer alike. -/
lemma emission_answer (busy : List String) (b : Block) (r : Request) :
    ((g.site board indent (tracer g board indent (b.id :: busy)) b).answer r).emission =
      (g.site board indent (g.emitter board indent (b.id :: busy)) b).answer r := by
  have hrun : untraced.rel
      ((g.site board indent (g.emitter board indent (b.id :: busy)) b).emit (.request r))
      ((g.site board indent (tracer g board indent (b.id :: busy)) b).emit (.request r)) :=
    Simulation.site untraced_performs (fun c _ => emission_traceWithin (b.id :: busy) c) board
      indent b _
  rwa [Site.emit, Site.emit, Script.run_request, Script.run_request] at hrun

/-- The entry of a run in the log. -/
def Run.entry (g : Graph) (board : Board) (indent : String) (run : Run) : Block × Fragment :=
  (run.block, (scriptRun g board indent run.busy run.block run.kind).result)

/-- An emission with its log and the same emission with the runs that the log tells of. -/
def logging (g : Graph) (board : Board) (indent : String) : Simulation Logged Traced where
  rel x y := x.emission = y.emission ∧ x.finished = y.runs.map (Run.entry g board indent)
  pure a := ⟨rfl, rfl⟩
  bind := by
    rintro α β x y f k ⟨hemission, hx⟩ hk
    have hrest : (fun a => (f a).emission) = fun a => (k a).emission := funext fun a => (hk a).1
    constructor
    · change x.emission >>= (fun a => (f a).emission) = y.emission >>= fun a => (k a).emission
      rw [hemission, hrest]
    · rw [Logged.finished_bind, Traced.runs_bind, List.map_append, hx, hemission, (hk _).2]

lemma logging_performs : (logging g board indent).Performs := fun _ _ => ⟨rfl, rfl⟩

theorem logWithin_logging (busy : List String) (b : Block) :
    (logging g board indent).rel (logWithin g board indent busy b)
      (traceWithin g board indent busy b) := by
  induction busy, b using Graph.walk_induction (g := g) with
  | inProgress busy b hb =>
    rw [logWithin_of_mem hb, traceWithin_of_mem hb]
    exact (logging g board indent).pure none
  | unlisted busy b hb hk =>
    rw [logWithin_of_unlisted hb hk, traceWithin_of_unlisted hb hk]
    refine (logging g board indent).bind ?_ fun _ => (logging g board indent).pure none
    exact logging_performs.warn b (by decide) _
  | listed busy b k hb hk ih =>
    have hchild : ∀ c hc, (logging g board indent).rel (logger g board indent (b.id :: busy) c hc)
        (tracer g board indent (b.id :: busy) c hc) := ih
    have hemission : ((g.site board indent (logger g board indent (b.id :: busy)) b).emit
        (k.emit g b)).emission = scriptRun g board indent busy b k :=
      (Simulation.site accounting_performs (fun c _ => emitWithin_accounting (b.id :: busy) c) board
        indent b (k.emit g b)).1
    obtain ⟨hsame, hfinished⟩ :=
      Simulation.site logging_performs hchild board indent b (k.emit g b)
    rw [logWithin_of_kind hb hk, traceWithin_of_kind hb hk]
    constructor
    · change (_ >>= fun fragment => pure (some fragment)) = _
      rw [hsame]
      rfl
    · rw [Logged.finished_bind, Traced.runs_bind, List.map_append, hfinished, hemission]
      rfl

/-- The log and the trace tell of the same runs in the same order. -/
theorem emitted_eq_map_runs :
    emitted g board indent = (runs g board indent).map (Run.entry g board indent) := by
  have hwalk : (logging g board indent).rel (g.emitBodies (logger g board indent []))
      (g.emitBodies (tracer g board indent [])) :=
    Simulation.emitBodies fun c _ => logWithin_logging [] c
  exact hwalk.2

end Trace

/-! ### Scripts that ask for no socket -/

/-- Requests for the code in a socket. -/
def IsSocket : Request → Prop
  | .value _ _ => True
  | .body _ => True
  | _ => False

/-- The script asks for no socket. -/
def Closed {α : Type} : Script α → Prop
  | .done _ => True
  | .ask r next => ¬IsSocket r ∧ ∀ answer, Closed (next answer)

section Scripts

variable {t : Site Traced} {α : Type} {x : Script α}

/-- Only the blocks in sockets are run. -/
lemma runs_answer {r : Request} (hr : ¬IsSocket r) : (t.answer r).runs = [] := by
  cases r with
  | register x => rfl
  | provide function xs => rfl
  | reserve pin role purpose => rfl
  | unit pin mapper =>
    change (t.unit pin mapper).runs = []
    unfold Site.unit
    cases t.board.unit pin mapper <;> rfl
  | bus name choice =>
    change (t.bus name choice).runs = []
    unfold Site.bus
    cases t.board.busPins? name (some choice) <;> rfl
  | value socket slot => exact absurd trivial hr
  | body socket => exact absurd trivial hr

lemma Closed.runs_emit (h : Closed x) : (t.emit x).runs = [] := by
  induction x with
  | done a => rfl
  | ask r next ih =>
    change (t.answer r).runs ++ (t.emit (next (t.answer r).emission.result)).runs = []
    rw [runs_answer h.1, ih _ (h.2 _)]
    rfl

end Scripts

/-! ### How the walk comes to a run -/

/-- The walk comes to a block while those in `busy` are in progress: at the top, or inside of a
block that asks for its sockets. -/
inductive Reached (g : Graph) : List String → Block → Prop where
  | top {b : Block} (hb : b ∈ g.blocks) (hplaced : g.Placed b) : Reached g [] b
  | inside {busy : List String} {a b : Block} {k : Kind} (ha : Reached g busy a)
    (hk : a.kind? = some k) (hopen : ¬Closed (k.emit g a)) (hb : g.Nested a b) :
    Reached g (a.id :: busy) b

/-- All runs of a trace have a property. -/
def visiting (P : Run → Prop) : Simulation Traced Traced where
  rel _ y := ∀ run ∈ y.runs, P run
  pure _ := by
    rintro _ ⟨⟩
  bind := by
    intro α β x y f k hy hk
    rw [Traced.runs_bind]
    exact List.forall_mem_append.mpr ⟨hy, hk _⟩

lemma visiting_performs {P : Run → Prop} : (visiting P).Performs := by
  rintro _ _ _ ⟨⟩

section Reach

variable {g : Graph} {board : Board} {indent : String} {busy : List String} {b c : Block}
  {fragment : Fragment} {k : Kind}

/-- Step: the walk comes to all runs inside of a block that it comes to. -/
theorem reached_of_mem_traceWithin (h : Reached g busy b) :
    ∀ run ∈ (traceWithin g board indent busy b).runs, Reached g run.busy run.block := by
  induction busy, b using Graph.walk_induction (g := g) with
  | inProgress busy b hmem =>
    rw [traceWithin_of_mem hmem]
    rintro _ ⟨⟩
  | unlisted busy b hmem hk =>
    rw [traceWithin_of_unlisted hmem hk]
    rintro _ ⟨⟩
  | listed busy b k hmem hk ih =>
    have hinside : ∀ run ∈
        ((g.site board indent (tracer g board indent (b.id :: busy)) b).emit (k.emit g b)).runs,
        Reached g run.busy run.block := by
      by_cases hclosed : Closed (k.emit g b)
      · rw [hclosed.runs_emit]
        rintro _ ⟨⟩
      · have hchild : ∀ c hc, g.Nested b c → (visiting fun run => Reached g run.busy run.block).rel
            (tracer g board indent (b.id :: busy) c hc)
            (tracer g board indent (b.id :: busy) c hc) :=
          fun c hc hnested => ih c hc (h.inside hk hclosed hnested)
        exact Simulation.site_of_nested visiting_performs hchild board indent _
    rw [traceWithin_of_kind hmem hk, Traced.runs_bind]
    refine List.forall_mem_append.mpr ⟨hinside, fun run hrun => ?_⟩
    obtain rfl : run = ⟨busy, b, k, hk⟩ := List.mem_singleton.mp hrun
    exact h

/-- Run: it comes to all runs of the program. -/
theorem reached_of_mem_runs {run : Run} (h : run ∈ runs g board indent) :
    Reached g run.busy run.block := by
  have hwalk : (visiting fun run => Reached g run.busy run.block).rel
      (g.emitBodies (tracer g board indent [])) (g.emitBodies (tracer g board indent [])) :=
    Simulation.emitBodies_of_placed fun c hc hplaced =>
      reached_of_mem_traceWithin (.top hc hplaced)
  exact hwalk run h

/-- An emitted block has the code of a run that the walk came to. -/
theorem exists_reached_of_emitted (h : (b, fragment) ∈ emitted g board indent) :
    ∃ busy k, Reached g busy b ∧ b.kind? = some k ∧
      (scriptRun g board indent busy b k).result = fragment := by
  rw [emitted_eq_map_runs] at h
  obtain ⟨run, hrun, heq⟩ := List.mem_map.mp h
  cases heq
  exact ⟨run.busy, run.kind, reached_of_mem_runs hrun, run.listed, rfl⟩

lemma Reached.mem (h : Reached g busy b) : b ∈ g.blocks := by
  cases h with
  | top hb _ => exact hb
  | inside _ _ _ hb => exact hb.mem

lemma Reached.placed (h : Reached g busy b) : g.Placed b := by
  cases h with
  | top _ hplaced => exact hplaced
  | inside _ _ _ hb => exact hb.placed

/-- All blocks in progress lead to the one that is reached. -/
lemma Reached.leads (h : Reached g busy b) : ∀ i ∈ busy, g.Leads i b.id := by
  induction h with
  | top => simp
  | inside ha _ _ hb ih => exact Graph.leads_of_busy ih (hb.leads ha.mem)

lemma mem_blocks_of_emitted (h : (b, fragment) ∈ emitted g board indent) : b ∈ g.blocks := by
  obtain ⟨busy, k, hreached, -⟩ := exists_reached_of_emitted h
  exact hreached.mem

/-- Without cycles, an emitted block has the code that it has on its own. -/
theorem fragment_of_emitted (hg : g.Acyclic) (h : (b, fragment) ∈ emitted g board indent)
    (hk : b.kind? = some k) :
    ((g.site board indent (g.emitter board indent []) b).emit (k.emit g b)).result = fragment := by
  obtain ⟨busy, k', hreached, hk', hresult⟩ := exists_reached_of_emitted h
  obtain rfl : k = k' := Option.some.inj (hk.symm.trans hk')
  rw [← hg.site_eq hreached.mem hreached.leads]
  exact hresult

/-! ### Blocks that ask for no socket -/

/-- Only blocks that ask for their sockets are in progress. -/
lemma Reached.open_of_mem (h : Reached g busy b) {i : String} (hi : i ∈ busy) :
    ∃ a k, a.id = i ∧ g.Placed a ∧ a.kind? = some k ∧ ¬Closed (k.emit g a) := by
  induction h with
  | top => cases hi
  | @inside busy a b k ha hk hopen _ ih =>
    rcases List.mem_cons.mp hi with rfl | hi
    · exact ⟨a, k, rfl, ha.placed, hk, hopen⟩
    · exact ih hi

/-- A block in a socket that asks for none itself is not in progress. -/
lemma Reached.not_mem_of_closed (h : Reached g busy b) (hk : b.kind? = some k)
    (hopen : ¬Closed (k.emit g b)) {socket : String}
    (hc : (b.values.get? socket).bind g.get? = some c) {leaf : Kind} (hleaf : c.kind? = some leaf)
    (hclosed : Closed (leaf.emit g c)) : c.id ∉ b.id :: busy := by
  intro hmem
  obtain ⟨id, hid, hget⟩ := Option.bind_eq_some_iff.mp hc
  obtain ⟨-, rfl⟩ := Graph.get?_mem hget
  obtain ⟨a, k', hsame, hplaced, hk', hopen'⟩ := (h.inside hk hopen (.value hc)).open_of_mem hmem
  rcases hplaced with hfound | hunlinked
  · rw [hsame, hget] at hfound
    obtain rfl : c = a := Option.some.inj hfound
    obtain rfl : leaf = k' := Option.some.inj (hleaf.symm.trans hk')
    exact hopen' hclosed
  · rw [hsame] at hunlinked
    exact hunlinked b h.mem (Block.mem_links_of_value hid)

/-- So a block whose script is over at once stands in every socket with its code. -/
theorem Reached.socketValue_of_done (h : Reached g busy b) (hk : b.kind? = some k)
    (hopen : ¬Closed (k.emit g b)) {socket : String}
    (hc : (b.values.get? socket).bind g.get? = some c) {leaf : Kind} (hleaf : c.kind? = some leaf)
    (hvalue : leaf.isValue = true) {text : String} {level : Level}
    (hdone : leaf.emit g c = .done (.value text level)) (htext : text ≠ "") (slot : Level) :
    (g.socketValue (g.emitter board indent (b.id :: busy)) b socket slot).result =
      some (Code.parenthesize text level slot) := by
  have hidle : c.id ∉ b.id :: busy := h.not_mem_of_closed hk hopen hc hleaf (hdone ▸ trivial)
  have hshape : Graph.isStatement c = false := by
    rw [Block.isStatement_of_kind hleaf, hvalue]
    rfl
  have hcode : g.emitter board indent (b.id :: busy) c (Graph.mem_of_link hc) =
      pure (some (.value text level)) := by
    change g.emitWithin board indent (b.id :: busy) c = _
    rw [Graph.emitWithin_of_kind hidle hleaf, hdone]
    rfl
  rw [Graph.socketValue_of_plugged hc, hshape, hcode, if_neg Bool.false_ne_true, pure_bind,
    Graph.fragmentValue, if_neg htext]
  rfl

end Reach

end MbedBlocks.Proofs
