import MbedBlocks.Proofs.ScriptProfiles
import MbedBlocks.Proofs.StatefulWalk
import MbedBlocks.Proofs.Upserts

/-!
# The catalogue and the scripts

Whatever a generator has collected, it makes a value of a block whose kind the catalogue lists with
a value, a statement of one that it lists as a statement, and nothing of any other. Only such a
block is reported to have an unknown kind: while a block is in progress, nothing inside it reports
it.
-/

namespace MbedBlocks

namespace Proofs

open Code (Fragment)
open MbedBlocks.Graph (ChildEmitter)

/-! ### The reports under a key -/

/-- The warnings that are filed under a block and a tag. -/
def reports (key : String × String) (warnings : List Warning) : List Warning :=
  warnings.filter fun w => w.key = key

lemma reports_record_of_ne {key : String × String} {w : Warning} (h : w.key ≠ key)
    (warnings : List Warning) :
    reports key (Context.record warnings w) = reports key warnings := by
  rw [record_eq_upsert]
  exact filter_upsert_of_ne h

lemma reports_foldl_record {key : String × String} {more : List Warning}
    (h : ∀ w ∈ more, w.key ≠ key) (warnings : List Warning) :
    reports key (more.foldl Context.record warnings) = reports key warnings := by
  induction more generalizing warnings with
  | nil => rfl
  | cons w more ih =>
    rw [List.foldl_cons, ih fun v hv => h v (List.mem_cons_of_mem w hv),
      reports_record_of_ne (h w List.mem_cons_self)]

/-- What is recorded takes the place of the report under its key. -/
lemma reports_record_self {w : Warning} {warnings : List Warning}
    (h : (reports w.key warnings).length ≤ 1) :
    reports w.key (Context.record warnings w) = [w] := by
  rw [record_eq_upsert]
  exact filter_upsert_self h

/-! ### Reports of unknown kinds -/

/-- Effects that leave the reports on the kind of a block as they are. -/
def sparing (board : Board) (id : String) : Invariant where
  effects es := ∀ c : Context, reports (id, Tag.unknownBlock) (c.applyAll board es).warnings =
    reports (id, Tag.unknownBlock) c.warnings
  value _ _ _ := True
  lines _ := True
  effects_nil _ := rfl
  effects_append hes hfs c := by rw [Context.applyAll_append, hfs, hes]
  lines_empty := trivial
  lines_append _ _ := trivial

variable {g : Graph} {board : Board} {indent id : String}

lemma sparing_warn {w : Warning} (h : w.key ≠ (id, Tag.unknownBlock)) :
    (sparing board id).effects [.warn w] :=
  fun c => reports_record_of_ne h c.warnings

lemma sparing_warn_of_tag {tag : String} (htag : tag ≠ Tag.unknownBlock)
    (blockId message : String) :
    (sparing board id).effects [.warn { blockId, tag, message }] :=
  sparing_warn fun hkey => htag (congrArg Prod.snd hkey)

lemma sparing_reserve (pin : String) (request : Reservation) :
    (sparing board id).effects [.reserve pin request] := by
  intro c
  refine reports_foldl_record (fun w hw hkey => ?_) c.warnings
  have htag : w.tag = Tag.unknownBlock := congrArg Prod.snd hkey
  rcases (reservation_warning hw).2 with h | h
  · exact absurd (h.symm.trans htag) (by decide)
  · exact absurd (h.symm.trans htag) (by decide)

/-- A script spares the block if what is in its sockets does. -/
lemma sparing_script {child : ChildEmitter Emit g}
    (hchild : ∀ c hc, (sparing board id).effects (child c hc).effects) (b : Block) {α : Type}
    (x : Script α) : (sparing board id).effects ((g.site board indent child b).emit x).effects := by
  have hemits : ∀ c hc, (sparing board id).Emits c (child c hc) := fun c hc =>
    ⟨hchild c hc, fun fragment _ => by cases fragment <;> trivial⟩
  refine Invariant.effects_emit (Invariant.effects_answer (fun r c => rfl) ?_
    (fun pin request _ => sparing_reserve pin request) (sparing_warn_of_tag (by decide) _) ?_ ?_) x
  · intro function registrations c
    change reports _ (c.apply board (.unlessDefined function registrations)).warnings = _
    rw [warnings_unlessDefined]
  · exact Invariant.effects_socketValue (fun c _ => sparing_warn_of_tag (by decide) c.id) hemits b
  · intro socket
    have hrel : (sparing board id).simulation.rel (g.socketBody child indent b socket)
        (g.socketBody child indent b socket) := Simulation.socketBody hchild indent b socket
    exact hrel

lemma sparing_of_children {busy : List String} {b : Block} {k : Kind} (hb : b.id ∉ busy)
    (hk : b.kind? = some k)
    (hchild : ∀ c ∈ g.blocks,
      (sparing board id).effects (g.emitWithin board indent (b.id :: busy) c).effects) :
    (sparing board id).effects (g.emitWithin board indent busy b).effects := by
  rw [Graph.emitWithin_of_kind hb hk]
  exact (sparing board id).effects_append (sparing_script hchild b (k.emit g b))
    (sparing board id).effects_nil

/-- While a block is in progress, nothing reports its kind. -/
lemma sparing_emitWithin {busy : List String} (b : Block) (hid : id ∈ busy) :
    (sparing board id).effects (g.emitWithin board indent busy b).effects := by
  induction busy, b using Graph.walk_induction (g := g) with
  | inProgress busy b hb =>
    rw [Graph.emitWithin_of_mem hb]
    exact (sparing board id).effects_nil
  | unlisted busy b hb hk =>
    rw [Graph.emitWithin_of_unlisted hb hk]
    refine sparing_warn fun hkey => hb ?_
    have hid' : b.id = id := congrArg Prod.fst hkey
    rwa [hid']
  | listed busy b k hb hk ih =>
    exact sparing_of_children hb hk fun c hc => ih c hc (List.mem_cons_of_mem _ hid)

/-! ### Agreement -/

/-- The report on a block whose kind is not in the catalogue. -/
def unlistedReport (b : Block) : Warning where
  blockId := b.id
  tag := Tag.unknownBlock
  message := "No code generator for block kind '" ++ b.kind ++ "'"

/-- An entry under the name of a block says of its shape what the script of the block yields. -/
lemma listed_iff {b : Block} {k : Kind} (hk : b.kind? = some k) {P : KindInfo → Prop} {v : Bool}
    (hP : ∀ info, P info ↔ info.shape.isValue = v) :
    (∃ info ∈ catalogue, info.name = b.kind ∧ P info) ↔ k.isValue = v := by
  have hname : k.name = b.kind := Block.kind?_eq_some_iff.mp hk
  constructor
  · rintro ⟨info, hinfo, hentry, hshape⟩
    rw [← isValue_entry hinfo (hentry.trans hname.symm)]
    exact (hP info).mp hshape
  · intro hshape
    obtain ⟨info, hinfo, hentry⟩ := k.exists_entry
    refine ⟨info, hinfo, hentry.trans hname, (hP info).mpr ?_⟩
    rw [isValue_entry hinfo hentry, hshape]

lemma unlisted_iff {b : Block} : (∀ info ∈ catalogue, info.name ≠ b.kind) ↔ b.kind? = none := by
  constructor
  · intro h
    cases hk : b.kind? with
    | none => rfl
    | some k =>
      obtain ⟨info, hinfo, hentry⟩ := k.exists_entry
      exact absurd (hentry.trans (Block.kind?_eq_some_iff.mp hk)) (h info hinfo)
  · intro hk info hinfo hname
    obtain ⟨k, hentry⟩ := KindInfo.exists_kind hinfo
    have hkind : b.kind? = some k := Block.kind?_eq_some_iff.mpr (hentry.trans hname)
    rw [hk] at hkind
    cases hkind

lemma sparing_listed {busy : List String} {b : Block} {k : Kind} (hb : b.id ∉ busy)
    (hk : b.kind? = some k) :
    (sparing board b.id).effects (g.emitWithin board indent busy b).effects :=
  sparing_of_children hb hk fun c _ => sparing_emitWithin c List.mem_cons_self

lemma isValue_shape {s : Shape} : s.isValue = true ↔ ∃ type, s = .value type := by
  cases s <;> simp [Shape.isValue]

lemma isValue_shape_eq_false {s : Shape} : s.isValue = false ↔ s = .statement := by
  cases s <;> simp [Shape.isValue]

lemma isValue_fragment {f : Fragment} : f.isValue = true ↔ ∃ text level, f = .value text level := by
  cases f <;> simp [Fragment.isValue]

lemma isValue_fragment_eq_false {f : Fragment} :
    f.isValue = false ↔ ∃ text, f = .statement text := by
  cases f <;> simp [Fragment.isValue]

/-- The code of a block has the shape that the script of its kind yields. -/
lemma isValue_emitWithin (g : Graph) (board : Board) (indent : String) {busy : List String}
    {b : Block} {k : Kind} (hb : b.id ∉ busy) (hk : b.kind? = some k) :
    ∃ fragment, (g.emitWithin board indent busy b).result = some fragment ∧
      fragment.isValue = k.isValue := by
  rw [Graph.emitWithin_of_kind hb hk]
  exact ⟨_, rfl, (blockRegistrations_profile g board indent busy b k).shape⟩

/-- What becomes of a block that is not in progress, from whatever the generator has collected: a
value, a statement or nothing, as the catalogue has it. Nothing and a report on its kind come of a
block that the catalogue does not list, and only of such a block. No name is answered by two
families of scripts. -/
theorem block_matches_catalogue (g : Graph) (board : Board) (indent : String) (c : Context)
    (visiting : Finset String) (b : Block) (hb : b.id ∉ visiting) :
    (∃ fragment c',
      (∀ extra, Walk.block g board indent (nesting g visiting b + extra) b ⟨c, visiting⟩ =
        some (fragment, ⟨c', visiting⟩)) ∧
      ((∃ text level, fragment = some (.value text level)) ↔
        ∃ info ∈ catalogue, info.name = b.kind ∧ ∃ type, info.shape = .value type) ∧
      ((∃ text, fragment = some (.statement text)) ↔
        ∃ info ∈ catalogue, info.name = b.kind ∧ info.shape = .statement) ∧
      (fragment = none ↔ ∀ info ∈ catalogue, info.name ≠ b.kind) ∧
      (fragment = none →
        c' = { c with warnings := Context.record c.warnings (unlistedReport b) } ∧
        ((reports (b.id, Tag.unknownBlock) c.warnings).length ≤ 1 →
          reports (b.id, Tag.unknownBlock) c'.warnings = [unlistedReport b])) ∧
      (fragment ≠ none →
        reports (b.id, Tag.unknownBlock) c'.warnings =
          reports (b.id, Tag.unknownBlock) c.warnings)) ∧
    Kind.families.Pairwise fun family family' =>
      ∀ name, family name = none ∨ family' name = none := by
  refine ⟨⟨_, _, fun extra => block_realizes (Finset.toList_toFinset visiting)
    (Nat.le_add_right _ extra) c, ?_⟩, Kind.families_pairwise⟩
  have hbusy : b.id ∉ visiting.toList := by simpa using hb
  cases hk : b.kind? with
  | none =>
    have hunlisted := unlisted_iff.mpr hk
    have hnone (P : KindInfo → Prop) : ¬∃ info ∈ catalogue, info.name = b.kind ∧ P info :=
      fun ⟨info, hinfo, hname, _⟩ => hunlisted info hinfo hname
    rw [Graph.emitWithin_of_unlisted hbusy hk]
    refine ⟨iff_of_false ?_ (hnone _), iff_of_false ?_ (hnone _), iff_of_true rfl hunlisted,
      fun _ => ⟨rfl, fun hlength => ?_⟩, fun h => absurd rfl h⟩
    · rintro ⟨_, _, ⟨⟩⟩
    · rintro ⟨_, ⟨⟩⟩
    · exact reports_record_self (w := unlistedReport b) hlength
  | some k =>
    obtain ⟨fragment, hfragment, hshape⟩ := isValue_emitWithin g board indent hbusy hk
    rw [hfragment]
    have hsome : some fragment ≠ none := Option.some_ne_none fragment
    refine ⟨?_, ?_, iff_of_false hsome ?_, fun h => absurd h hsome, fun _ => ?_⟩
    · rw [listed_iff hk fun info => isValue_shape.symm, ← hshape, isValue_fragment]
      simp only [Option.some.injEq]
    · rw [listed_iff hk fun info => isValue_shape_eq_false.symm, ← hshape,
        isValue_fragment_eq_false]
      simp only [Option.some.injEq]
    · rw [unlisted_iff, hk]
      exact Option.some_ne_none k
    · exact sparing_listed hbusy hk c

def portal : Block := { id := "portal", kind := "teleport" }

/-- What is collected when the portal was of another unknown kind before. -/
def outdated : Context :=
  { Context.initial .strict with
    warnings :=
      [{ blockId := "portal"
         tag := Tag.unknownBlock
         message := "No code generator for block kind 'jump'" }] }

theorem block_matches_catalogue_portal :
    portal.id ∉ ({"lamp"} : Finset String) ∧
      ∃ c', (∀ extra, Walk.block { blocks := [portal] } Board.Nucleo.profile "  "
          (nesting { blocks := [portal] } {"lamp"} portal + extra) portal ⟨outdated, {"lamp"}⟩ =
            some (none, ⟨c', {"lamp"}⟩)) ∧
        reports ("portal", Tag.unknownBlock) c'.warnings =
          [{ blockId := "portal"
             tag := Tag.unknownBlock
             message := "No code generator for block kind 'teleport'" }] := by
  have hidle : portal.id ∉ ({"lamp"} : Finset String) := by decide
  obtain ⟨⟨fragment, c', hrun, -, -, hnone, hreport, -⟩, -⟩ :=
    block_matches_catalogue { blocks := [portal] } Board.Nucleo.profile "  " outdated {"lamp"}
      portal hidle
  obtain rfl : fragment = none := hnone.mpr (by decide +kernel)
  exact ⟨hidle, c', hrun, (hreport rfl).2 (by decide)⟩

end Proofs

end MbedBlocks
