import MbedBlocks.Proofs.JsonText
import MbedBlocks.Proofs.WorkspaceIndex

/-!
# Reading back what was written

The readers of lists, dictionaries, optional values and records give back what the writers put into
them, so a graph is read back from the value of its document, with all blocks in their order, and from
the text as far as its numbers are. The table of positions is made anew and is the one that the edits
had kept.
-/

namespace MbedBlocks

namespace Dict

variable {α : Type}

lemma entries_insert (d : Dict α) (key : String) (value : α) :
    (d.insert key value).entries = insertEntry key value d.entries := rfl

lemma insertEntry_of_last {key : String} {value : α} {entries : List (String × α)}
    (h : ∀ entry ∈ entries, entry.1 < key) :
    insertEntry key value entries = entries ++ [(key, value)] := by
  induction entries with
  | nil => rfl
  | cons entry rest ih =>
    have hlt : entry.1 < key := h entry List.mem_cons_self
    have hge : ¬key < entry.1 := fun hgt => String.lt_irrefl _ (String.lt_trans hlt hgt)
    have hne : key ≠ entry.1 := fun heq => String.lt_irrefl _ (heq ▸ hlt)
    rw [insertEntry, if_neg hge, if_neg hne, ih fun e he => h e (List.mem_cons_of_mem _ he)]
    rfl

lemma entries_ofList {entries : List (String × α)}
    (h : entries.Pairwise fun a b => a.1 < b.1) : (ofList entries).entries = entries := by
  induction entries using List.reverseRecOn with
  | nil => rfl
  | append_singleton entries entry ih =>
    obtain ⟨hentries, -, hlast⟩ := List.pairwise_append.mp h
    rw [ofList_concat, entries_insert, ih hentries]
    exact insertEntry_of_last fun e he => hlast e he entry (List.mem_singleton_self entry)

lemma ofList_entries (d : Dict α) : ofList d.entries = d := ext_entries (entries_ofList d.ordered)

end Dict

namespace Json

/-! ### Containers -/

section Containers

variable {α : Type} {write : α → Json} {value? : Json → Option α}

lemma mapM_map_of_readsBack {β γ : Type} {f : β → γ} {r : γ → Option β} {l : List β}
    (h : ∀ a ∈ l, r (f a) = some a) : (l.map f).mapM r = some l := by
  induction l with
  | nil => rfl
  | cons a l ih =>
    rw [List.map_cons, List.mapM_cons, h a List.mem_cons_self,
      ih fun b hb => h b (List.mem_cons_of_mem _ hb)]
    rfl

lemma listOf?_map {l : List α} (h : ∀ a ∈ l, value? (write a) = some a) :
    listOf? value? (.arr (l.map write)) = some l :=
  mapM_map_of_readsBack h

lemma dictOf?_toJson {d : Dict α} (h : ∀ a ∈ d.values, value? (write a) = some a) :
    dictOf? value? (d.toJson write) = some d := by
  have hentries : (d.entries.map fun e => (e.1, write e.2)).mapM
      (fun m => (value? m.2).map fun v => (m.1, v)) = some d.entries := by
    apply mapM_map_of_readsBack
    intro e he
    rw [h e.2 (List.mem_map_of_mem he)]
    rfl
  rw [Dict.toJson, dictOf?, hentries, Option.map_some, Dict.ofList_entries]

lemma optional?_getD {o : Option α} (hnull : ∀ a, write a ≠ .null)
    (h : ∀ a, value? (write a) = some a) :
    optional? value? ((o.map write).getD .null) = some o := by
  cases o with
  | none => rfl
  | some a =>
    rw [Option.map_some, Option.getD_some, optional?.eq_2 _ _ (hnull a), h a]
    rfl

/-- A record with each of its members once is read by name. -/
lemma record?_obj {names : List String} {members : List (String × Json)}
    (hkeys : members.map Prod.fst = names) (hnodup : names.Nodup) :
    (obj members).record? names = some fun n => members.lookup n := by
  have honce : (names.all fun n => members.countP (fun m => m.1 == n) ≤ 1) = true := by
    rw [List.all_eq_true]
    intro n _
    have hcount : members.countP (fun m => m.1 == n) = names.count n := by
      rw [← hkeys, List.count, List.countP_map]
      rfl
    rw [hcount]
    exact decide_eq_true (List.nodup_iff_count_le_one.mp hnodup n)
  rw [record?, if_pos honce]

end Containers

end Json

/-! ### Blocks and graphs -/

open Json

/-- A document can hold the value unless it is a number that is not finite. -/
def FieldValue.isFinite : FieldValue → Bool
  | number x => x.isFinite
  | _ => true

/-- The digits of a number read as the number. -/
def FieldValue.isLegible : FieldValue → Bool
  | number x =>
    (Number.read? (Decimal.json x).toList).any fun n => n.word? = none ∧ n.toFloat = x
  | _ => true

def Block.FiniteNumbers (b : Block) : Prop := ∀ v ∈ b.fields.values, v.isFinite = true

def Block.LegibleNumbers (b : Block) : Prop := ∀ v ∈ b.fields.values, v.isLegible = true

def Graph.FiniteNumbers (g : Graph) : Prop := ∀ b ∈ g.blocks, b.FiniteNumbers

def Graph.LegibleNumbers (g : Graph) : Prop := ∀ b ∈ g.blocks, b.LegibleNumbers

lemma FieldValue.ofJson?_toJson {v : FieldValue} (h : v.isFinite = true) :
    ofJson? v.toJson = some v := by
  cases v with
  | checkbox on => rfl
  | number x => exact if_pos h
  | text s => rfl

lemma ValueType.ofName?_name (t : ValueType) : ofName? t.name = some t := by
  cases t <;> decide +kernel

lemma text?_str (s : String) : text? (.str s) = some s := rfl

theorem Block.ofJson?_toJson {b : Block} (h : b.FiniteNumbers) : ofJson? b.toJson = some b := by
  have hfields : dictOf? FieldValue.ofJson? (b.fields.toJson FieldValue.toJson) = some b.fields :=
    dictOf?_toJson fun v hv => FieldValue.ofJson?_toJson (h v hv)
  have htexts (d : Dict String) : dictOf? text? (d.toJson .str) = some d :=
    dictOf?_toJson fun s _ => text?_str s
  have hnext : optional? text? ((b.next.map .str).getD .null) = some b.next :=
    optional?_getD (fun _ => nofun) text?_str
  have houtput : optional? (variant? ValueType.ofName?)
      ((b.output.map fun t => Json.str t.name).getD .null) = some b.output :=
    optional?_getD (fun _ => nofun) ValueType.ofName?_name
  have hoptions : dictOf? (listOf? text?) (b.options.toJson fun l => .arr (l.map .str)) =
      some b.options :=
    dictOf?_toJson fun l _ => listOf?_map fun s _ => text?_str s
  unfold ofJson? toJson
  rw [record?_obj]
  · simp [List.lookup_cons, required?, orElse?, text?_str, hfields, htexts, hnext, houtput, hoptions]
  · rfl
  · decide

lemma Metadata.ofJson?_toJson (m : Metadata) : ofJson? m.toJson = some m := by
  unfold ofJson? toJson
  rw [record?_obj]
  · simp [List.lookup_cons, required?, orElse?, text?_str]
  · rfl
  · decide

theorem Graph.ofJson?_toJson {g : Graph} (h : g.FiniteNumbers) : ofJson? g.toJson = some g := by
  have hblocks : listOf? Block.ofJson? (.arr (g.blocks.map Block.toJson)) = some g.blocks :=
    listOf?_map fun b hb => Block.ofJson?_toJson (h b hb)
  unfold ofJson? toJson
  rw [record?_obj]
  · simp [List.lookup_cons, required?, orElse?, Metadata.ofJson?_toJson, hblocks]
  · rfl
  · decide

/-! ### Texts -/

lemma FieldValue.legible_toJson {v : FieldValue} (h : v.isLegible = true) : v.toJson.Legible := by
  cases v with
  | checkbox on => exact .bool on
  | text s => exact .str s
  | number x =>
    obtain ⟨n, hread, hn⟩ := (Option.any_eq_true _ _).mp h
    obtain ⟨hword, hfloat⟩ := of_decide_eq_true hn
    refine .num hread ?_
    rw [Number.toJson, hword, hfloat]

lemma Dict.legible_toJson {α : Type} {write : α → Json} {d : Dict α}
    (h : ∀ a ∈ d.values, (write a).Legible) : (d.toJson write).Legible := by
  refine .obj fun e he => ?_
  obtain ⟨entry, hentry, rfl⟩ := List.mem_map.mp he
  exact h entry.2 (List.mem_map_of_mem hentry)

lemma legible_getD {α : Type} {write : α → Json} (h : ∀ a, (write a).Legible) (o : Option α) :
    ((o.map write).getD .null).Legible := by
  cases o with
  | none => exact .null
  | some a => exact h a

lemma legible_texts (l : List String) : (Json.arr (l.map .str)).Legible := by
  refine .arr fun j hj => ?_
  obtain ⟨s, -, rfl⟩ := List.mem_map.mp hj
  exact .str s

lemma Block.legible_toJson {b : Block} (h : b.LegibleNumbers) : b.toJson.Legible := by
  have hfields : (b.fields.toJson FieldValue.toJson).Legible :=
    Dict.legible_toJson fun v hv => FieldValue.legible_toJson (h v hv)
  have htexts (d : Dict String) : (d.toJson .str).Legible := Dict.legible_toJson fun s _ => .str s
  have hoptions : (b.options.toJson fun l => .arr (l.map .str)).Legible :=
    Dict.legible_toJson fun l _ => legible_texts l
  refine .obj ?_
  simp only [List.forall_mem_cons]
  exact ⟨.str b.id, .str b.kind, hfields, htexts _, htexts _, legible_getD .str b.next,
    legible_getD (fun t => .str t.name) b.output, hoptions, htexts _, nofun⟩

lemma Graph.legible_toJson {g : Graph} (h : g.LegibleNumbers) : g.toJson.Legible := by
  have hmetadata : g.metadata.toJson.Legible := by
    refine .obj ?_
    simp only [List.forall_mem_cons]
    exact ⟨.str _, .str _, nofun⟩
  have hblocks : (Json.arr (g.blocks.map Block.toJson)).Legible := by
    refine .arr fun j hj => ?_
    obtain ⟨b, hb, rfl⟩ := List.mem_map.mp hj
    exact Block.legible_toJson (h b hb)
  refine .obj ?_
  simp only [List.forall_mem_cons]
  exact ⟨hmetadata, hblocks, nofun⟩

theorem Graph.read_write {g : Graph} (hfinite : g.FiniteNumbers) (hlegible : g.LegibleNumbers) :
    Graph.read g.write = .ok g := by
  unfold Graph.read Graph.write
  rw [parse?_pretty (legible_toJson hlegible), Option.bind_some, ofJson?_toJson hfinite]

namespace Proofs

/-- A workspace that can be reached is read back from its document with the same metadata, blocks and
positions, and so with the same block under every id. -/
theorem document_reads_back {w : Workspace} (h : w.Reachable) (hfinite : w.graph.FiniteNumbers) :
    Workspace.ofJson? w.toJson = some w ∧
      (w.graph.LegibleNumbers → Workspace.read w.write = .ok w) := by
  constructor
  · unfold Workspace.ofJson? Workspace.toJson
    rw [Graph.ofJson?_toJson hfinite, Option.map_some, ← h.eq_load]
  · intro hlegible
    unfold Workspace.read Workspace.write
    rw [Graph.read_write hfinite hlegible]
    exact congrArg Except.ok h.eq_load.symm

/-- A document with two pauses of one id. -/
def pausesText : String :=
  "\x7b\"metadata\": \x7b\"name\": \"pauses\"\x7d, \"blocks\": [" ++
    "\x7b\"id\": \"pause\", \"kind\": \"time_delay\", \"fields\": \x7b\"UNIT\": \"s\"\x7d\x7d, " ++
    "\x7b\"id\": \"pause\", \"kind\": \"time_delay\", \"output\": \"Number\"\x7d]\x7d"

def pauses : Workspace :=
  .load
    { metadata := { name := "pauses" }
      blocks :=
        [{ id := "pause", kind := "time_delay", fields := Dict.insert {} "UNIT" (.text "s") },
         { id := "pause", kind := "time_delay", output := some .number }] }

/-- A number is put into the second pause, and a warning with a quote, a backslash and a line feed. -/
def pausesEdited : Workspace :=
  (Workspace.Edit.setWarning "pause" "note" (some "\"\\\n")).apply
    ((Workspace.Edit.setField "pause" "DELAY" (.number 2.5)).apply pauses)

theorem document_reads_back_pauses :
    Workspace.read pausesText = .ok pauses ∧ pausesEdited.Reachable ∧
      pausesEdited.graph.FiniteNumbers ∧ pausesEdited.graph.LegibleNumbers ∧
      Workspace.ofJson? pausesEdited.toJson = some pausesEdited ∧
      Workspace.read pausesEdited.write = .ok pausesEdited := by
  have hread : Workspace.read pausesText = .ok pauses := by decide +kernel
  have hreach : pausesEdited.Reachable := ((Workspace.Reachable.read hread).edit _).edit _
  have hfinite : pausesEdited.graph.FiniteNumbers := by
    unfold Graph.FiniteNumbers Block.FiniteNumbers
    decide +kernel
  have hlegible : pausesEdited.graph.LegibleNumbers := by
    unfold Graph.LegibleNumbers Block.LegibleNumbers
    decide +kernel
  obtain ⟨hvalue, htext⟩ := document_reads_back hreach hfinite
  exact ⟨hread, hreach, hfinite, hlegible, hvalue, htext hlegible⟩

end Proofs

end MbedBlocks
