import MbedBlocks.Proofs.Simulation

/-!
# Invariants of the walk

An invariant speaks of effects, of the expressions of value blocks and of statement lines. If every
script keeps it at a site whose sockets are filled in accordance with it, it holds of all that a
walk emits, whatever blocks are in progress.
-/

namespace MbedBlocks.Proofs

open Code (Level Fragment)
open MbedBlocks.Graph (ChildEmitter)

/-- Properties of lists of effects, of the expressions of blocks and of statement lines; the first
and the last survive concatenation. -/
structure Invariant where
  effects : List Effect → Prop
  value : Block → String → Level → Prop
  lines : String → Prop
  effects_nil : effects []
  effects_append : ∀ {es fs}, effects es → effects fs → effects (es ++ fs)
  lines_empty : lines ""
  lines_append : ∀ {s t}, lines s → lines t → lines (s ++ t)

namespace Invariant

variable {I : Invariant} {g : Graph} {board : Board} {indent : String}

/-- What the invariant says of the code of a block. -/
def Code (I : Invariant) (b : Block) : Fragment → Prop
  | .value text level => I.value b text level
  | .statement text => I.lines text

/-- Emissions of a block in accordance with the invariant. -/
structure Emits (I : Invariant) (b : Block) (e : Emit (Option Fragment)) : Prop where
  effects : I.effects e.effects
  code : ∀ fragment ∈ e.result, I.Code b fragment

/-- The sockets of the site are filled in accordance with the invariant. -/
structure Fills (I : Invariant) (g : Graph) (indent : String) (s : Site Emit) : Prop where
  value_effects : ∀ socket slot, I.effects (s.value socket slot).effects
  value : ∀ socket slot, ∀ text ∈ (s.value socket slot).result, ∃ c raw level,
    (s.block.values.get? socket).bind g.get? = some c ∧ raw ≠ "" ∧ I.value c raw level ∧
      text = Code.parenthesize raw level slot
  body_effects : ∀ socket, I.effects (s.body socket).effects
  body : ∀ socket, ∃ code, I.lines code ∧ (s.body socket).result = Text.indentLines code indent

/-- Every block of the graph keeps the invariant, whether its kind is listed or not, and also if it
is a statement in a value socket. -/
structure Kept (I : Invariant) (g : Graph) (board : Board) (indent : String) : Prop where
  unlisted : ∀ b ∈ g.blocks, b.kind? = none → ∀ message,
    I.effects [.warn { blockId := b.id, tag := Tag.unknownBlock, message }]
  misplaced : ∀ b ∈ g.blocks, ∀ message,
    I.effects [.warn { blockId := b.id, tag := Tag.statementInValue, message }]
  script : ∀ b ∈ g.blocks, ∀ k, b.kind? = some k → ∀ s : Site Emit, s.board = board →
    s.block = b → I.Fills g indent s →
      I.effects (s.emit (k.emit g b)).effects ∧ I.Code b (s.emit (k.emit g b)).result

/-- The part of an invariant that is about effects, as a relation that sequencing preserves. -/
def simulation (I : Invariant) : Simulation Emit Emit where
  rel x _ := I.effects x.effects
  pure _ := I.effects_nil
  bind hx hf := I.effects_append hx (hf _)

/-- If all answers of a site keep to the effects, so does every script. -/
lemma effects_emit {s : Site Emit} (h : ∀ r, I.effects (s.answer r).effects) {α : Type}
    (x : Script α) : I.effects (s.emit x).effects := by
  have hrel : I.simulation.rel (s.emit x) (s.emit x) := I.simulation.script h x
  exact hrel

/-- The answer to a request keeps to the effects if the registrations that it asks for do, and
reservations, the report of a resource that the board does not have, and what fills the sockets. -/
lemma effects_answer_of_request {s : Site Emit} {r : Request}
    (hregister : ∀ x, r = .register x → I.effects [.register x])
    (hprovide : ∀ function registrations, r = .provide function registrations →
      I.effects [.unlessDefined function registrations])
    (hreserve : ∀ pin request, request.blockId = s.block.id → I.effects [.reserve pin request])
    (hunknown : ∀ message,
      I.effects [.warn { blockId := s.block.id, tag := Tag.unknownResource, message }])
    (hvalue : ∀ socket slot, I.effects (s.value socket slot).effects)
    (hbody : ∀ socket, I.effects (s.body socket).effects) : I.effects (s.answer r).effects := by
  cases r with
  | register x => exact hregister x rfl
  | provide function registrations => exact hprovide function registrations rfl
  | reserve pin role purpose => exact hreserve pin _ rfl
  | unit pin mapper =>
    change I.effects (s.unit pin mapper).effects
    unfold Site.unit
    cases s.board.unit pin mapper with
    | ok unit => exact I.effects_nil
    | error e => exact hunknown e.message
  | bus name choice =>
    change I.effects (s.bus name choice).effects
    unfold Site.bus
    cases s.board.busPins? name (some choice) with
    | some pins => exact I.effects_nil
    | none => exact hunknown _
  | value socket slot => exact hvalue socket slot
  | body socket => exact hbody socket

/-- The answers of a site keep to the effects if all registrations do. -/
lemma effects_answer {s : Site Emit} (hregister : ∀ r, I.effects [.register r])
    (hprovide : ∀ function registrations, I.effects [.unlessDefined function registrations])
    (hreserve : ∀ pin request, request.blockId = s.block.id → I.effects [.reserve pin request])
    (hunknown : ∀ message,
      I.effects [.warn { blockId := s.block.id, tag := Tag.unknownResource, message }])
    (hvalue : ∀ socket slot, I.effects (s.value socket slot).effects)
    (hbody : ∀ socket, I.effects (s.body socket).effects) (r : Request) :
    I.effects (s.answer r).effects :=
  effects_answer_of_request (fun x _ => hregister x)
    (fun function registrations _ => hprovide function registrations) hreserve hunknown hvalue hbody

lemma lines_join {texts : List String} (h : ∀ t ∈ texts, I.lines t) : I.lines (String.join texts) := by
  induction texts with
  | nil => exact I.lines_empty
  | cons t texts ih =>
    rw [String.join_cons]
    exact I.lines_append (h t List.mem_cons_self) (ih fun u hu => h u (List.mem_cons_of_mem t hu))

section Sockets

variable {child : ChildEmitter Emit g}

lemma Emits.statementText {b : Block} {e : Emit (Option Fragment)} (h : I.Emits b e) :
    I.lines (Graph.statementText e.result) := by
  match hresult : e.result with
  | none => exact I.lines_empty
  | some (.value _ _) => exact I.lines_empty
  | some (.statement text) => exact h.code _ hresult

lemma lines_chainCode (hchild : ∀ c hc, I.Emits c (child c hc)) (first : String) :
    I.lines (g.chainCode child first).result := by
  rw [Graph.chainCode, Emit.result_bind, Emit.result_pure, result_mapM, List.map_map]
  refine lines_join fun t ht => ?_
  obtain ⟨c, -, rfl⟩ := List.mem_map.mp ht
  exact (hchild c.1 _).statementText

/-- A plugged socket yields the expression of its block, in parentheses if need be. -/
lemma value_socketValue (hchild : ∀ c hc, I.Emits c (child c hc)) {b : Block} {socket : String}
    {slot : Level} {text : String} (h : (g.socketValue child b socket slot).result = some text) :
    ∃ c raw level, (b.values.get? socket).bind g.get? = some c ∧ raw ≠ "" ∧ I.value c raw level ∧
      text = Code.parenthesize raw level slot := by
  cases hplug : (b.values.get? socket).bind g.get? with
  | none =>
    rw [Graph.socketValue_of_vacant hplug] at h
    cases h
  | some c =>
    rw [Graph.socketValue_of_plugged hplug] at h
    split_ifs at h
    rw [Emit.result_bind] at h
    match hfragment : (child c (Graph.mem_of_link hplug)).result with
    | none =>
      rw [hfragment] at h
      cases h
    | some (.statement _) =>
      rw [hfragment] at h
      cases h
    | some (.value raw level) =>
      rw [hfragment, Graph.fragmentValue, Emit.result_pure] at h
      split_ifs at h with hraw
      have hvalue : I.value c raw level := (hchild c _).code _ hfragment
      exact ⟨c, raw, level, rfl, hraw, hvalue, (Option.some.inj h).symm⟩

lemma effects_socketValue
    (hwarn : ∀ b ∈ g.blocks, ∀ message,
      I.effects [.warn { blockId := b.id, tag := Tag.statementInValue, message }])
    (hchild : ∀ c hc, I.Emits c (child c hc)) (b : Block) (socket : String) (slot : Level) :
    I.effects (g.socketValue child b socket slot).effects := by
  cases hplug : (b.values.get? socket).bind g.get? with
  | none =>
    rw [Graph.socketValue_of_vacant hplug]
    exact I.effects_nil
  | some c =>
    have hc := Graph.mem_of_link hplug
    rw [Graph.socketValue_of_plugged hplug]
    split_ifs
    · exact hwarn c hc _
    · refine I.effects_append (hchild c hc).effects ?_
      match (child c hc).result with
      | none => exact I.effects_nil
      | some (.value _ _) => exact I.effects_nil
      | some (.statement _) => exact hwarn c hc _

lemma Kept.fills (h : I.Kept g board indent) (hchild : ∀ c hc, I.Emits c (child c hc)) (b : Block) :
    I.Fills g indent (g.site board indent child b) where
  value_effects := effects_socketValue h.misplaced hchild b
  value socket slot text htext := value_socketValue hchild htext
  body_effects socket := by
    have hrel : I.simulation.rel (g.socketBody child indent b socket)
        (g.socketBody child indent b socket) :=
      Simulation.socketBody (fun c hc => (hchild c hc).effects) indent b socket
    exact hrel
  body socket := by
    change ∃ code, I.lines code ∧ (g.socketBody child indent b socket).result = _
    unfold Graph.socketBody
    cases b.statements.get? socket with
    | none => exact ⟨"", I.lines_empty, rfl⟩
    | some first => exact ⟨_, lines_chainCode hchild first, rfl⟩

end Sockets

/-- Step: a block keeps the invariant if the blocks that it links to do; run: so all do. -/
theorem Kept.emitWithin (h : I.Kept g board indent) (busy : List String) (b : Block)
    (hb : b ∈ g.blocks) : I.Emits b (g.emitWithin board indent busy b) := by
  induction busy, b using Graph.walk_induction (g := g) with
  | inProgress busy b hbusy =>
    rw [Graph.emitWithin_of_mem hbusy]
    exact ⟨I.effects_nil, by rintro _ ⟨⟩⟩
  | unlisted busy b hbusy hk =>
    rw [Graph.emitWithin_of_unlisted hbusy hk]
    exact ⟨h.unlisted b hb hk _, by rintro _ ⟨⟩⟩
  | listed busy b k hbusy hk ih =>
    have hchild : ∀ c hc, I.Emits c (g.emitter board indent (b.id :: busy) c hc) :=
      fun c hc => ih c hc hc
    obtain ⟨heffects, hcode⟩ := h.script b hb k hk _ rfl rfl (h.fills hchild b)
    rw [Graph.emitWithin_of_kind hbusy hk]
    refine ⟨I.effects_append heffects I.effects_nil, ?_⟩
    rintro _ ⟨⟩
    exact hcode

theorem Kept.emitter (h : I.Kept g board indent) (busy : List String) (c : Block)
    (hc : c ∈ g.blocks) : I.Emits c (g.emitter board indent busy c hc) :=
  h.emitWithin busy c hc

theorem Kept.effects_emitBodies (h : I.Kept g board indent) :
    I.effects (g.emitBodies (g.emitter board indent [])).effects := by
  have hrel : I.simulation.rel (g.emitBodies (g.emitter board indent []))
      (g.emitBodies (g.emitter board indent [])) :=
    Simulation.emitBodies fun c hc => (h.emitter [] c hc).effects
  exact hrel

end Invariant

end MbedBlocks.Proofs
