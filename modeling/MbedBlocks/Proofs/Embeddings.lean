import MbedBlocks.Compile
import MbedBlocks.Proofs.DictLookup

/-!
# Graphs within graphs

A map of blocks embeds a graph in another one if it keeps what the walk goes by: ids, kinds, links,
what the links find, and what the rules of the kinds do. The walk from a block then yields the same
in both graphs, whatever else the other one holds.
-/

namespace MbedBlocks

open Code (Level Fragment)

namespace Dict

variable {α : Type}

lemma mem_values_of_get? {d : Dict α} {key : String} {value : α} (h : d.get? key = some value) :
    value ∈ d.values :=
  List.mem_map.mpr ⟨(key, value), mem_entries_iff.mpr h, rfl⟩

end Dict

namespace Block

lemma mem_links_of_value {b : Block} {socket id : String} (h : b.values.get? socket = some id) :
    id ∈ b.links := by
  simp [links, Dict.mem_values_of_get? h]

lemma mem_links_of_statement {b : Block} {socket id : String}
    (h : b.statements.get? socket = some id) : id ∈ b.links := by
  simp [links, Dict.mem_values_of_get? h]

lemma mem_links_of_next {b : Block} {id : String} (h : b.next = some id) : id ∈ b.links := by
  simp [links, h]

/-- Two blocks with the same id, kind and links. -/
structure SameShape (b c : Block) : Prop where
  id : b.id = c.id
  kind : b.kind = c.kind
  values : b.values = c.values
  statements : b.statements = c.statements
  next : b.next = c.next

lemma SameShape.kind? {b c : Block} (h : b.SameShape c) : b.kind? = c.kind? := by
  unfold Block.kind?
  rw [h.kind]

lemma SameShape.info? {b c : Block} (h : b.SameShape c) : b.info? = c.info? := by
  unfold Block.info?
  rw [h.kind]

lemma SameShape.isStatement {b c : Block} (h : b.SameShape c) :
    Graph.isStatement b = Graph.isStatement c := by
  unfold Graph.isStatement
  rw [h.info?]

end Block

namespace Graph

/-- The map embeds the blocks of `g` in `g'`. -/
structure Embeds (f : Block → Block) (g g' : Graph) : Prop where
  mem : ∀ {b}, b ∈ g.blocks → f b ∈ g'.blocks
  shape : ∀ {b}, b ∈ g.blocks → (f b).SameShape b
  /-- The id of a block and those that its links name mean the same in both graphs. -/
  found : ∀ {b}, b ∈ g.blocks → ∀ id ∈ b.id :: b.links, g'.get? id = (g.get? id).map f
  rule : ∀ {b k}, b ∈ g.blocks → b.kind? = some k → k.emit g' (f b) = k.emit g b

section Shapes

variable {b b' c c' : Block}

lemma warnStatementInValue_of_shape (hb : b'.SameShape b) (hc : c'.SameShape c) (socket : String) :
    (warnStatementInValue b' c' socket : Emit Unit) = warnStatementInValue b c socket := by
  unfold warnStatementInValue Block.warn
  rw [hb.id, hc.id, hc.kind]

lemma fragmentValue_of_shape (hb : b'.SameShape b) (hc : c'.SameShape c) (socket : String)
    (slot : Level) :
    fragmentValue (m := Emit) b' c' socket slot = fragmentValue b c socket slot := by
  funext fragment
  match fragment with
  | none => rfl
  | some (.value text level) => rfl
  | some (.statement text) =>
    simp only [fragmentValue, warnStatementInValue_of_shape hb hc]

end Shapes

lemma chainFrom_eq {g : Graph} (seen : List String) (id : String) :
    g.chainFrom seen id =
      if id ∈ seen then []
      else (g.get? id).elim [] fun b => b :: b.next.elim [] (g.chainFrom (id :: seen)) := by
  rw [chainFrom]
  split_ifs with hseen
  · rfl
  · split
    next hget => rw [hget, Option.elim_none]
    next b hget =>
      have hstep : (g.get? id).elim [] (fun b => b :: b.next.elim [] (g.chainFrom (id :: seen))) =
          b :: b.next.elim [] (g.chainFrom (id :: seen)) := by rw [hget, Option.elim_some]
      rw [hstep]
      cases b.next <;> rfl

lemma mapM_attach_map {f : Block → Block} {l l' : List Block} (hl : l' = l.map f) {β : Type}
    {p : (c : Block) → c ∈ l → Emit β} {q : (c : Block) → c ∈ l' → Emit β}
    (h : ∀ c hc, q (f c) (hl ▸ List.mem_map_of_mem hc) = p c hc) :
    (l'.attach.mapM fun c => q c.1 c.2) = l.attach.mapM fun c => p c.1 c.2 := by
  subst hl
  rw [List.attach_map, List.mapM_map]
  congr 1
  funext c
  exact h c.1 c.2

namespace Embeds

variable {f : Block → Block} {g g' : Graph}

/-- Chains from an id that means the same run through the same blocks. -/
lemma chainFrom (h : Embeds f g g') (seen : List String) (id : String)
    (hid : g'.get? id = (g.get? id).map f) :
    g'.chainFrom seen id = (g.chainFrom seen id).map f := by
  fun_induction Graph.chainFrom g seen id with
  | case1 seen id hseen => rw [chainFrom_eq, if_pos hseen, List.map_nil]
  | case2 seen id hseen hget =>
    rw [chainFrom_eq, if_neg hseen, hid, hget]
    rfl
  | case3 seen id hseen b hget hnext =>
    have hb := (get?_mem hget).1
    rw [chainFrom_eq, if_neg hseen, hid, hget, Option.map_some, Option.elim_some,
      (h.shape hb).next, hnext]
    rfl
  | case4 seen id hseen b hget next hnext _ ih =>
    have hb := (get?_mem hget).1
    have hmeans := h.found hb next (List.mem_cons_of_mem _ (Block.mem_links_of_next hnext))
    rw [chainFrom_eq, if_neg hseen, hid, hget, Option.map_some, Option.elim_some,
      (h.shape hb).next, hnext, Option.elim_some, ih hmeans, List.map_cons]

lemma chain (h : Embeds f g g') {b : Block} (hb : b ∈ g.blocks) {first : String}
    (hfirst : first ∈ b.id :: b.links) : g'.chain first = (g.chain first).map f :=
  h.chainFrom [] first (h.found hb first hfirst)

section Children

variable {child : ChildEmitter Emit g} {child' : ChildEmitter Emit g'} (h : Embeds f g g')
  (hchild : ∀ c hc, child' (f c) (h.mem hc) = child c hc) {b : Block} (hb : b ∈ g.blocks)

include h hchild hb

lemma chainCode {first : String} (hfirst : first ∈ b.id :: b.links) :
    g'.chainCode child' first = g.chainCode child first := by
  have hmap := mapM_attach_map (h.chain hb hfirst)
    (p := fun c hc => child c (mem_of_mem_chain hc))
    (q := fun c hc => child' c (mem_of_mem_chain hc))
    fun c hc => hchild c (mem_of_mem_chain hc)
  unfold Graph.chainCode
  rw [hmap]

lemma socketBody (indent : String) (socket : String) :
    g'.socketBody child' indent (f b) socket = g.socketBody child indent b socket := by
  unfold Graph.socketBody
  rw [(h.shape hb).statements]
  cases hfirst : b.statements.get? socket with
  | none => rfl
  | some first =>
    have hlink := List.mem_cons_of_mem b.id (Block.mem_links_of_statement hfirst)
    simp only [h.chainCode hchild hb hlink]

lemma socketValue (socket : String) (slot : Level) :
    g'.socketValue child' (f b) socket slot = g.socketValue child b socket slot := by
  have hlink : ((f b).values.get? socket).bind g'.get? =
      ((b.values.get? socket).bind g.get?).map f := by
    rw [(h.shape hb).values]
    cases hid : b.values.get? socket with
    | none => rfl
    | some id => exact h.found hb id (List.mem_cons_of_mem _ (Block.mem_links_of_value hid))
  cases hc : (b.values.get? socket).bind g.get? with
  | none => rw [socketValue_of_vacant hc, socketValue_of_vacant (by rw [hlink, hc]; rfl)]
  | some c =>
    have hmem : c ∈ g.blocks := mem_of_link hc
    have hshape := h.shape hmem
    rw [socketValue_of_plugged hc, socketValue_of_plugged (c := f c) (by rw [hlink, hc]; rfl),
      hchild c hmem, hshape.isStatement, warnStatementInValue_of_shape (h.shape hb) hshape,
      fragmentValue_of_shape (h.shape hb) hshape]

lemma site_emit (board : Board) (indent : String) {α : Type} (x : Script α) :
    (g'.site board indent child' (f b)).emit x = (g.site board indent child b).emit x := by
  have hid := (h.shape hb).id
  unfold Site.emit
  congr 1
  funext r
  cases r with
  | value socket slot => exact h.socketValue hchild hb socket slot
  | body socket => exact h.socketBody hchild hb indent socket
  | reserve pin role purpose => simp only [Site.answer, Site.reserve, site, hid]
  | unit pin mapper => simp only [Site.answer, Site.unit, Site.warn, Block.warn, site, hid]
  | bus name choice => simp only [Site.answer, Site.bus, Site.warn, Block.warn, site, hid]
  | register r => rfl
  | provide function registrations => rfl

lemma frameChain (socket : String) :
    g'.frameChain child' (f b) socket = g.frameChain child b socket := by
  unfold Graph.frameChain
  rw [(h.shape hb).statements]
  cases hfirst : b.statements.get? socket with
  | none => rfl
  | some first =>
    exact h.chainCode hchild hb (List.mem_cons_of_mem _ (Block.mem_links_of_statement hfirst))

/-- A top block adds the same to the bodies of both programs. -/
lemma emitTop : g'.emitTop child' (f b) (h.mem hb) = g.emitTop child b hb := by
  unfold Graph.emitTop emitFrame emitLoose
  rw [h.frameChain hchild hb, h.frameChain hchild hb, (h.shape hb).id, (h.shape hb).kind,
    (h.shape hb).info?, h.chainCode hchild hb List.mem_cons_self, hchild b hb]

end Children

/-- Every block is emitted in the other graph as it is in its own. -/
theorem emitWithin (h : Embeds f g g') (board : Board) (indent : String) (busy : List String)
    (b : Block) :
    b ∈ g.blocks → g'.emitWithin board indent busy (f b) = g.emitWithin board indent busy b := by
  induction busy, b using walk_induction (g := g) with
  | inProgress busy b hbusy =>
    intro hb
    rw [emitWithin_of_mem hbusy, emitWithin_of_mem ((h.shape hb).id ▸ hbusy)]
  | unlisted busy b hbusy hk =>
    intro hb
    have hshape := h.shape hb
    rw [emitWithin_of_unlisted hbusy hk,
      emitWithin_of_unlisted (hshape.id ▸ hbusy) (hshape.kind?.trans hk)]
    simp only [warnUnknown, Block.warn, hshape.id, hshape.kind]
  | listed busy b k hbusy hk ih =>
    intro hb
    have hshape := h.shape hb
    have hchild : ∀ c hc, g'.emitter board indent (b.id :: busy) (f c) (h.mem hc) =
        g.emitter board indent (b.id :: busy) c hc := fun c hc => ih c hc hc
    rw [emitWithin_of_kind hbusy hk,
      emitWithin_of_kind (hshape.id ▸ hbusy) (hshape.kind?.trans hk), h.rule hb hk, hshape.id]
    exact congrArg (fun e => do return some (← e)) (h.site_emit hchild hb board indent (k.emit g b))

lemma emitter (h : Embeds f g g') (board : Board) (indent : String) (busy : List String) :
    ∀ c hc, g'.emitter board indent busy (f c) (h.mem hc) = g.emitter board indent busy c hc :=
  fun c hc => h.emitWithin board indent busy c hc

end Embeds

end Graph

end MbedBlocks
