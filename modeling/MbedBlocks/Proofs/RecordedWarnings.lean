import MbedBlocks.Proofs.CheckReports
import MbedBlocks.Proofs.CheckedUses
import MbedBlocks.Proofs.WalkInvariants

/-!
# The warnings that a compilation records

A compilation files a warning under its block and tag, once. It warns of blocks of the graph only
and under its own tags only. If the pin that tells the unit of a setup block has none, that is what
the block is reported for in the end, though its other pin may have been reported before.
-/

namespace MbedBlocks

/-- What a warning is filed under. -/
def Warning.key (w : Warning) : String × String := (w.blockId, w.tag)

namespace Context

lemma sameKey_iff (v w : Warning) :
    (v.blockId == w.blockId && v.tag == w.tag) = true ↔ v.key = w.key := by
  simp [Warning.key]

/-- A recorded warning takes the place of those under its key. -/
lemma mem_record {warnings : List Warning} {v w : Warning} (h : v ∈ record warnings w) :
    v = w ∨ v ∈ warnings ∧ v.key ≠ w.key := by
  unfold record at h
  split_ifs at h with hany
  · obtain ⟨u, hu, rfl⟩ := List.mem_map.mp h
    split_ifs with hkey
    · exact .inl rfl
    · exact .inr ⟨hu, fun heq => hkey ((sameKey_iff u w).mpr heq)⟩
  · rcases List.mem_append.mp h with h | h
    · refine .inr ⟨h, fun heq => hany ?_⟩
      exact List.any_eq_true.mpr ⟨v, h, (sameKey_iff v w).mpr heq⟩
    · exact .inl (List.mem_singleton.mp h)

lemma nodup_keys_record {warnings : List Warning} (h : (warnings.map Warning.key).Nodup)
    (w : Warning) : ((record warnings w).map Warning.key).Nodup := by
  unfold record
  split_ifs with hany
  · -- Replacing keeps the keys.
    have hkeys : (warnings.map fun v =>
        if v.blockId == w.blockId && v.tag == w.tag then w else v).map Warning.key =
        warnings.map Warning.key := by
      rw [List.map_map]
      refine List.map_congr_left fun v _ => ?_
      rw [Function.comp_apply]
      split_ifs with hkey
      · exact ((sameKey_iff v w).mp hkey).symm
      · rfl
    rwa [hkeys]
  · rw [List.map_append, List.map_singleton]
    refine List.nodup_append.mpr ⟨h, List.nodup_singleton _, ?_⟩
    rintro key hkey _ hw rfl
    obtain ⟨v, hv, hvkey⟩ := List.mem_map.mp hkey
    rw [List.mem_singleton.mp hw] at hvkey
    exact hany (List.any_eq_true.mpr ⟨v, hv, (sameKey_iff v w).mpr hvkey⟩)

end Context

namespace Proofs

variable {P : Warning → Prop}

/-- Warnings with a property, filed once each. -/
structure Filed (P : Warning → Prop) (warnings : List Warning) : Prop where
  once : (warnings.map Warning.key).Nodup
  each : ∀ w ∈ warnings, P w

lemma filed_nil : Filed P [] := ⟨List.nodup_nil, by simp⟩

lemma Filed.mono {Q : Warning → Prop} {warnings : List Warning} (h : Filed P warnings)
    (hPQ : ∀ w, P w → Q w) : Filed Q warnings :=
  ⟨h.once, fun w hw => hPQ w (h.each w hw)⟩

/-- A warning that is recorded need not be matched by one that it replaces. -/
lemma Filed.record_of_other {warnings : List Warning} {w : Warning}
    (h : Filed (fun v => v.key ≠ w.key → P v) warnings) (hw : P w) :
    Filed P (Context.record warnings w) := by
  refine ⟨Context.nodup_keys_record h.once w, fun v hv => ?_⟩
  rcases Context.mem_record hv with rfl | ⟨hv, hkey⟩
  · exact hw
  · exact h.each v hv hkey

lemma Filed.record {warnings : List Warning} (h : Filed P warnings) {w : Warning} (hw : P w) :
    Filed P (Context.record warnings w) := by
  have hother : Filed (fun v => v.key ≠ w.key → P v) warnings := h.mono fun _ hv _ => hv
  exact hother.record_of_other hw

lemma Filed.foldl {warnings more : List Warning} (h : Filed P warnings) (hmore : ∀ w ∈ more, P w) :
    Filed P (more.foldl Context.record warnings) := by
  induction more generalizing warnings with
  | nil => exact h
  | cons w more ih =>
    have hnext := h.record (hmore w List.mem_cons_self)
    exact ih hnext fun v hv => hmore v (List.mem_cons_of_mem w hv)

/-! ### The warnings of an effect -/

lemma reservation_warning {r : Reservations} {board : Board} {pin : String} {request : Reservation}
    {w : Warning} (h : w ∈ r.warnings board pin request) :
    w.blockId = request.blockId ∧ (w.tag = Tag.unknownResource ∨ w.tag = Tag.pinConflict) := by
  unfold Reservations.warnings at h
  split_ifs at h with hpin
  · cases h
  · rcases List.mem_append.mp h with h | h
    · unfold Reservations.unknownPinWarnings at h
      split_ifs at h
      · cases h
      · rw [List.mem_singleton.mp h]
        exact ⟨rfl, .inl rfl⟩
    · unfold Reservations.conflictWarnings at h
      split at h
      · split_ifs at h
        · rw [List.mem_singleton.mp h]
          exact ⟨rfl, .inr rfl⟩
        · cases h
      · cases h

lemma Filed.reserve {board : Board} {c : Context} (h : Filed P c.warnings) {pin : String}
    {request : Reservation}
    (hP : ∀ w, w.blockId = request.blockId →
      w.tag = Tag.unknownResource ∨ w.tag = Tag.pinConflict → P w) :
    Filed P (c.apply board (.reserve pin request)).warnings :=
  h.foldl fun w hw => hP w (reservation_warning hw).1 (reservation_warning hw).2

lemma warnings_unlessDefined (board : Board) (c : Context) (function : String)
    (registrations : List Registration) :
    (c.apply board (.unlessDefined function registrations)).warnings = c.warnings := by
  rw [Context.apply]
  split_ifs <;> rfl

/-- Effects that keep the recorded warnings filed, as an invariant of the walk. -/
def filing (board : Board) (P : Warning → Prop) : Invariant where
  effects es := ∀ c : Context, Filed P c.warnings → Filed P (c.applyAll board es).warnings
  value _ _ _ := True
  lines _ := True
  effects_nil _ h := h
  effects_append hes hfs c h := by
    rw [Context.applyAll_append]
    exact hfs _ (hes c h)
  lines_empty := trivial
  lines_append _ _ := trivial

variable {g : Graph} {board : Board} {indent : String} {s : Site Emit}

lemma filing_warn {w : Warning} (hw : P w) : (filing board P).effects [.warn w] :=
  fun _ h => h.record hw

/-- What a script asks for keeps the warnings filed, if all warnings of pins of its block may be
filed. -/
lemma filing_answer
    (hP : ∀ w, w.blockId = s.block.id → w.tag = Tag.unknownResource ∨ w.tag = Tag.pinConflict → P w)
    (hfills : (filing board P).Fills g indent s) (r : Request) :
    (filing board P).effects (s.answer r).effects := by
  refine Invariant.effects_answer (fun r c h => h) (fun function registrations c h => ?_)
    (fun pin request hid c h => ?_) (fun message => ?_) hfills.value_effects hfills.body_effects r
  · change Filed P (c.apply board (.unlessDefined function registrations)).warnings
    rwa [warnings_unlessDefined]
  · exact h.reserve fun w hw => hP w (hw.trans hid)
  · exact filing_warn (hP _ rfl (.inl rfl))

end Proofs

/-! ### Setup blocks without a unit -/

/-- The message for a setup block whose unit is unknown. -/
def Block.Unpaired (b : Block) (board : Board) (message : String) : Prop :=
  ∃ setup e, .pairedSetup setup ∈ b.capabilities ∧
    board.unit (b.text setup.primary) setup.mapper = .error e ∧ e.message = message

/-- The script makes registrations and nothing else. -/
def Script.Registers {α : Type} : Script α → Prop
  | .done _ => True
  | .ask (.register _) next => (next ()).Registers
  | .ask _ _ => False

namespace Proofs

open Code (Fragment)

variable {P : Warning → Prop} {g : Graph} {board : Board} {indent : String} {s : Site Emit}

lemma filing_registers {α : Type} {x : Script α} (h : x.Registers) :
    (filing board P).effects (s.emit x).effects := by
  induction x with
  | done a => exact (filing board P).effects_nil
  | ask r next ih =>
    cases r with
    | register r => exact fun c hc => ih () h _ hc
    | _ => cases h

/-- A setup block reserves its pins, asks for the unit and then registers what it declares. -/
lemma setup_script {k : Kind} {family : Family} {primary : String} {mapper : Board.Mapper}
    (h : k.pairedSetup? = some (family, primary, mapper)) (g : Graph) (b : Block) :
    ∃ (pin pin' : String) (role : PinRole) (purpose purpose' : String)
      (rest : String → Script Fragment),
      k.emit g b = (do
        Script.reserve pin role purpose
        Script.reserve pin' role purpose'
        let unit ← Script.unit (b.text primary) mapper
        rest unit) ∧ ∀ unit, (rest unit).Registers := by
  unfold Kind.pairedSetup? at h
  split at h <;> cases h <;> exact ⟨_, _, _, _, _, _, rfl, fun unit => trivial⟩

/-- A warning that a compilation records in the end: of a block of the graph, under a tag of
compilation, and of the missing unit if that is what a setup block lacks. -/
structure Accurate (g : Graph) (board : Board) (w : Warning) : Prop where
  block : ∃ b ∈ g.blocks, b.id = w.blockId
  tag : w.tag ∈ Tag.generation
  message : w.tag = Tag.unknownResource → ∀ b ∈ g.blocks, b.id = w.blockId →
    ∀ message, b.Unpaired board message → w.message = message

lemma unpaired_unique {b : Block} {message message' : String} (h : b.Unpaired board message)
    (h' : b.Unpaired board message') : message = message' := by
  obtain ⟨setup, e, hsetup, he, rfl⟩ := h
  obtain ⟨setup', e', hsetup', he', rfl⟩ := h'
  rw [capabilities_eq hsetup, List.mem_singleton] at hsetup'
  obtain rfl := Capability.pairedSetup.inj hsetup'
  rw [he] at he'
  rw [Except.error.inj he']

lemma accurate_of_tag (tag : String) {b : Block} (hb : b ∈ g.blocks) {w : Warning}
    (hid : w.blockId = b.id) (htag : w.tag = tag) (hgeneration : tag ∈ Tag.generation)
    (hother : tag ≠ Tag.unknownResource) : Accurate g board w := by
  subst htag
  exact ⟨⟨b, hb, hid.symm⟩, hgeneration, fun h => absurd h hother⟩

/-- The effects of a setup block whose unit is unknown: that is reported after its pins. -/
lemma effects_setup_unpaired {b : Block} {k : Kind} {family : Family} {primary : String}
    {mapper : Board.Mapper} (h : k.pairedSetup? = some (family, primary, mapper))
    (hblock : s.block = b) {e : Error}
    (hunit : s.board.unit (b.text primary) mapper = .error e) :
    ∃ (pin pin' : String) (request request' : Reservation) (rest : Script Fragment),
      (s.emit (k.emit g b)).effects =
        [.reserve pin request, .reserve pin' request',
          .warn { blockId := b.id, tag := Tag.unknownResource, message := e.message }] ++
          (s.emit rest).effects ∧
      request.blockId = b.id ∧ request'.blockId = b.id ∧ rest.Registers := by
  obtain ⟨pin, pin', role, purpose, purpose', rest, hscript, hrest⟩ := setup_script h g b
  have hanswer : s.emit (Script.unit (b.text primary) mapper) = (do
      s.warn Tag.unknownResource e.message
      return b.text primary) := by
    refine (Script.run_request s.answer _).trans ?_
    change s.unit _ _ = _
    rw [Site.unit, hunit]
  refine ⟨pin, pin', { blockId := b.id, role, purpose },
    { blockId := b.id, role, purpose := purpose' }, rest (b.text primary), ?_, rfl, rfl, hrest _⟩
  rw [hscript, Site.emit_bind, Site.emit_bind, Site.emit_bind, hanswer, ← hblock]
  rfl

lemma accurate_unpaired (hg : g.Distinct) {b : Block} (hb : b ∈ g.blocks) {message : String}
    (h : b.Unpaired board message) :
    Accurate g board { blockId := b.id, tag := Tag.unknownResource, message } := by
  refine ⟨⟨b, hb, rfl⟩, List.mem_cons_self, fun _ c hc hid message' hc' => ?_⟩
  rw [hg.eq_of_id hc hb hid] at hc'
  exact unpaired_unique h hc'

/-- A setup block without a unit is reported for that, whatever its pins are reported for. -/
lemma filing_unpaired (hg : g.Distinct) {b : Block} (hb : b ∈ g.blocks) {k : Kind}
    (hk : b.kind? = some k) (hboard : s.board = board) (hblock : s.block = b) {message : String}
    (h : b.Unpaired board message) :
    (filing board (Accurate g board)).effects (s.emit (k.emit g b)).effects := by
  have hunit := accurate_unpaired hg hb h
  obtain ⟨setup, e, hsetup, herror, rfl⟩ := h
  obtain ⟨pin, pin', request, request', rest, heffects, hrequest, hrequest', hrest⟩ :=
    effects_setup_unpaired (g := g) (pairedSetup?_of_capability hk hsetup) hblock (hboard ▸ herror)
  have hpins (w : Warning) (hid : w.blockId = b.id)
      (htag : w.tag = Tag.unknownResource ∨ w.tag = Tag.pinConflict) :
      w.key ≠ (b.id, Tag.unknownResource) → Accurate g board w := by
    intro hkey
    rcases htag with htag | htag
    · exact absurd (Prod.ext hid htag) hkey
    · exact accurate_of_tag _ hb hid htag (by decide) (by decide)
  intro c hc
  rw [heffects, Context.applyAll_append]
  apply filing_registers hrest
  -- Between the reservations and the report of the unit, the block's own warning may be any.
  have hstart : Filed (fun w => w.key ≠ (b.id, Tag.unknownResource) → Accurate g board w)
      c.warnings := hc.mono fun _ hw _ => hw
  have hfirst : Filed _ (c.apply board (.reserve pin request)).warnings :=
    hstart.reserve fun w hid => hpins w (hid.trans hrequest)
  have hsecond : Filed _
      ((c.apply board (.reserve pin request)).apply board (.reserve pin' request')).warnings :=
    hfirst.reserve fun w hid => hpins w (hid.trans hrequest')
  exact hsecond.record_of_other (w := ⟨b.id, Tag.unknownResource, e.message⟩) hunit

theorem kept_accurate (hg : g.Distinct) :
    (filing board (Accurate g board)).Kept g board indent where
  unlisted b hb _ message :=
    filing_warn (accurate_of_tag Tag.unknownBlock hb rfl rfl (by decide) (by decide))
  misplaced b hb message :=
    filing_warn (accurate_of_tag Tag.statementInValue hb rfl rfl (by decide) (by decide))
  script b hb k hk s hboard hblock hfills := by
    refine ⟨?_, by cases (s.emit (k.emit g b)).result <;> trivial⟩
    by_cases hunpaired : ∃ message, b.Unpaired board message
    · obtain ⟨message, hmessage⟩ := hunpaired
      exact filing_unpaired hg hb hk hboard hblock hmessage
    · refine Invariant.effects_emit (filing_answer (fun w hid htag => ?_) hfills) _
      rw [hblock] at hid
      refine ⟨⟨b, hb, hid.symm⟩, ?_, fun _ c hc hid' message hc' => ?_⟩
      · rcases htag with htag | htag <;> (rw [htag]; decide)
      · rw [hg.eq_of_id hc hb (hid'.trans hid)] at hc'
        exact absurd ⟨message, hc'⟩ hunpaired

/-- The warnings of a program are accurate, and each block has at most one under a tag. -/
theorem filed_program (hg : g.Distinct) (options : Options) :
    Filed (Accurate g board) (Generator.new g board options).program.warnings :=
  (kept_accurate hg).effects_emitBodies _ filed_nil

end Proofs

end MbedBlocks
