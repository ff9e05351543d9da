import MbedBlocks.Proofs.FunctionNames

/-!
# The callbacks of tickers

A ticker and its callback are named after the id of their block. The spelling of an id can be read
back from left to right, so different ids have different spellings, and the names are those of
no other block.
-/

namespace MbedBlocks

/-! ### Spellings of ids -/

namespace Code

lemma isAlphanum_of_mem_hexDigits {n : Nat} {c : Char} (hc : c ∈ Nat.toDigits 16 n) :
    c.isAlphanum := by
  have hdigit : ∀ d < 16, (Nat.digitChar d).isAlphanum := by decide
  induction n using Nat.strong_induction_on with
  | _ n ih =>
    rw [Nat.toDigits_eq_if (by decide)] at hc
    split_ifs at hc with hn
    · rw [List.mem_singleton.mp hc]
      exact hdigit n hn
    · rcases List.mem_append.mp hc with hc | hc
      · exact ih (n / 16) (by omega) hc
      · rw [List.mem_singleton.mp hc]
        exact hdigit (n % 16) (Nat.mod_lt n (by decide))

lemma underscore_notMem_hexDigits (n : Nat) : '_' ∉ Nat.toDigits 16 n := by
  intro h
  exact absurd (isAlphanum_of_mem_hexDigits h) (by decide)

lemma hexDigits_injective : Function.Injective (Nat.toDigits 16) := by
  have hdigit : ∀ i < 16, ∀ j < 16, Nat.digitChar i = Nat.digitChar j → i = j := by decide
  intro m
  induction m using Nat.strong_induction_on with
  | _ m ih =>
    intro n h
    rw [Nat.toDigits_eq_if (by decide), Nat.toDigits_eq_if (n := n) (by decide)] at h
    split_ifs at h with hm hn hn
    · exact hdigit m hm n hn (List.singleton_inj.mp h)
    · have hlength := congrArg List.length h
      have hpos : 0 < (Nat.toDigits 16 (n / 16)).length := Nat.length_toDigits_pos
      rw [List.length_append, List.length_singleton, List.length_singleton] at hlength
      omega
    · have hlength := congrArg List.length h
      have hpos : 0 < (Nat.toDigits 16 (m / 16)).length := Nat.length_toDigits_pos
      rw [List.length_append, List.length_singleton, List.length_singleton] at hlength
      omega
    · obtain ⟨hrest, hlast⟩ := List.append_inj' h rfl
      have hquotient : m / 16 = n / 16 := ih (m / 16) (by omega) hrest
      have hremainder : m % 16 = n % 16 :=
        hdigit _ (Nat.mod_lt m (by decide)) _ (Nat.mod_lt n (by decide))
          (List.singleton_inj.mp hlast)
      omega

/-- Texts without an underscore end at the first one. -/
lemma split_at_underscore {xs ys u v : List Char} (hx : '_' ∉ xs) (hy : '_' ∉ ys)
    (h : xs ++ '_' :: u = ys ++ '_' :: v) : xs = ys ∧ u = v := by
  induction xs generalizing ys with
  | nil =>
    cases ys with
    | nil => exact ⟨rfl, (List.cons.inj h).2⟩
    | cons y ys =>
      have hfirst : '_' = y := (List.cons.inj h).1
      exact absurd (hfirst ▸ List.mem_cons_self) hy
  | cons x xs ih =>
    cases ys with
    | nil =>
      have hfirst : x = '_' := (List.cons.inj h).1
      exact absurd (hfirst ▸ List.mem_cons_self) hx
    | cons y ys =>
      obtain ⟨hfirst, hrest⟩ := List.cons.inj h
      obtain ⟨hxs, huv⟩ :=
        ih (List.not_mem_of_not_mem_cons hx) (List.not_mem_of_not_mem_cons hy) hrest
      exact ⟨by rw [hfirst, hxs], huv⟩

/-- Step: the spelling of a character tells the character and where it ends. -/
lemma identifierChar_append_injective {c d : Char} {u v : List Char}
    (h : identifierChar c ++ u = identifierChar d ++ v) : c = d ∧ u = v := by
  have hunderscore : ¬('_').isAlphanum := by decide
  unfold identifierChar at h
  split_ifs at h with hc hd hd
  · exact List.cons.inj h
  · have hfirst : c = '_' := (List.cons.inj h).1
    exact absurd (hfirst ▸ hc) hunderscore
  · have hfirst : '_' = d := (List.cons.inj h).1
    exact absurd (hfirst ▸ hd) hunderscore
  · have hrest : Nat.toDigits 16 c.toNat ++ '_' :: u = Nat.toDigits 16 d.toNat ++ '_' :: v := by
      simpa using h
    obtain ⟨hcode, huv⟩ :=
      split_at_underscore (underscore_notMem_hexDigits _) (underscore_notMem_hexDigits _) hrest
    exact ⟨Char.toNat_inj.mp (hexDigits_injective hcode), huv⟩

lemma identifierChar_ne_nil (c : Char) : identifierChar c ≠ [] := by
  unfold identifierChar
  split_ifs <;> simp

/-- Run: the spelling of a text tells the text. -/
lemma flatMap_identifierChar_injective :
    Function.Injective fun cs : List Char => cs.flatMap identifierChar := by
  intro cs
  induction cs with
  | nil =>
    intro ds h
    cases ds with
    | nil => rfl
    | cons d ds => exact absurd (List.append_eq_nil_iff.mp h.symm).1 (identifierChar_ne_nil d)
  | cons c cs ih =>
    intro ds h
    cases ds with
    | nil => exact absurd (List.append_eq_nil_iff.mp h).1 (identifierChar_ne_nil c)
    | cons d ds =>
      obtain ⟨hfirst, hrest⟩ := identifierChar_append_injective h
      rw [hfirst, ih hrest]

lemma identifierSuffix_injective : Function.Injective identifierSuffix := by
  intro id id' h
  exact String.toList_inj.mp (flatMap_identifierChar_injective (String.ofList_injective h))

lemma mem_identifierSuffix {id : String} {c : Char} (hc : c ∈ (identifierSuffix id).toList) :
    c.isAlphanum ∨ c = '_' := by
  rw [identifierSuffix, String.toList_ofList] at hc
  obtain ⟨d, -, hd⟩ := List.mem_flatMap.mp hc
  unfold identifierChar at hd
  split_ifs at hd with halnum
  · rw [List.mem_singleton.mp hd]
    exact .inl halnum
  · rcases List.mem_cons.mp hd with hfirst | hd
    · exact .inr hfirst
    · rcases List.mem_append.mp hd with hdigit | hlast
      · exact .inl (isAlphanum_of_mem_hexDigits hdigit)
      · exact .inr (List.mem_singleton.mp hlast)

end Code

namespace Proofs

open Code (Fragment)
open Registration (Slot)

/-! ### The names of tickers -/

/-- The ticker of the block with the id. -/
def ticker (id : String) : String := "tick" ++ Code.identifierSuffix id

/-- The function that it calls. -/
def tickerCallback (id : String) : String := ticker id ++ "_handle"

lemma ticker_injective : Function.Injective ticker := by
  intro id id' h
  exact Code.identifierSuffix_injective ((String.append_right_inj _).mp h)

lemma tickerCallback_injective : Function.Injective tickerCallback := by
  intro id id' h
  exact ticker_injective ((String.append_left_inj _).mp h)

/-- A callback has the name of a ticker of one block only. -/
lemma defined_tickerCallback {id : String} {c : Block} {k : Kind}
    (h : tickerCallback id ∈ defined c k) : k = .time .ticker ∧ c.id = id := by
  have hhead : (tickerCallback id).toList.head? = some 't' := by simp [tickerCallback, ticker]
  have hlast : (tickerCallback id).toList.getLast? = some 'e' := by
    simp [tickerCallback, List.getLast?_append]
  have hdefining := defining_of_mem h
  generalize hname : tickerCallback id = name at hdefining hhead hlast
  cases hdefining with
  | ticker => exact ⟨rfl, (tickerCallback_injective hname).symm⟩
  | attach =>
    -- The function of a serial line may begin like that of a ticker, but it ends differently.
    simp [List.getLast?_append] at hlast
  | interrupt | transfer | setup | command | home | move | setPosition =>
    simp [NetworkKind.handler] at hhead

lemma declared_ticker {board : Board} {c : Block} {k : Kind} {s : String}
    (h : (Peripheral.ticker, s) ∈ declared board c k) : k = .time .ticker := by
  cases k with
  | language k | pin k | serial k | motor k | time k | spi k | radio k | network k | voice k
  | sensor k | imu k | var k | file k | gcode k => cases k <;> first | rfl | simp [declared] at h

/-- Blocks of other kinds do not register under the names of a ticker. -/
lemma grants_apart {g : Graph} {board : Board} {indent : String} {busy : List String} {c : Block}
    {k : Kind} (hk : k ≠ .time .ticker) (id : String) :
    ∀ e ∈ blockRegistrations g board indent busy c k, Grants (fun x =>
      x.slot ≠ .function (tickerCallback id) ∧ x.slot ≠ .declaration (ticker id)) e := by
  have hprofile := blockRegistrations_profile g board indent busy c k
  intro e he
  have hfunction : functionName? e ≠ some (tickerCallback id) := fun hname =>
    hk (defined_tickerCallback (mem_defined he hname)).1
  have hslot {key : String} (h : Slot.function key = .function (tickerCallback id)) :
      some key = some (tickerCallback id) := congrArg some (Slot.function.inj h)
  cases e with
  | register x =>
    cases x with
    | function key text => exact ⟨fun h => hfunction (hslot h), nofun⟩
    | declaration key text =>
      refine ⟨nofun, fun h => ?_⟩
      obtain rfl : key = ticker id := Slot.declaration.inj h
      exact hk (declared_ticker (hprofile.mem_declared (p := .ticker) he))
    | header key text | setup key text runFirst => exact ⟨nofun, nofun⟩
  | unlessDefined function xs =>
    -- Only the command handler is registered on condition, with a header.
    obtain ⟨rfl, rfl⟩ := hprofile.standard _ he
    intro x hx
    rcases List.mem_cons.mp hx with rfl | hx
    · exact ⟨nofun, nofun⟩
    · rw [List.mem_singleton.mp hx]
      exact ⟨fun h => hfunction (hslot h), nofun⟩
  | reserve pin request | warn w => trivial

/-! ### What a ticker registers -/

section Runs

variable {g : Graph} {board : Board} {indent : String} {b : Block} {fragment : Fragment}

lemma deposit_ticker (s : Site Emit) (before : Option String) :
    (ownRegistrations s (Kind.emit g s.block (.time .ticker))).foldl
      (deposit (.function (tickerCallback s.block.id))) before =
        some (Code.functionText "void" (tickerCallback s.block.id) []
          (s.body "function_body").result) := by
  have hown : ownRegistrations s (Kind.emit g s.block (.time .ticker)) =
      [.register (.function (tickerCallback s.block.id)
          (Code.functionText "void" (tickerCallback s.block.id) []
            (s.body "function_body").result)),
        .register (.declaration (ticker s.block.id) ("Ticker " ++ ticker s.block.id ++ ";"))] :=
    rfl
  simp [hown, deposit, Registration.slot, Registration.text]

/-- No other block defines the callback, so it keeps the body that its block gives it. -/
lemma function_of_ticker (hdistinct : g.Distinct) (hg : g.Acyclic)
    (h : (b, fragment) ∈ emitted g board indent) (hk : b.kind? = some (.time .ticker)) :
    (finalRegistry g board indent).functions.get? (tickerCallback b.id) =
      some (Code.functionText "void" (tickerCallback b.id) []
        ((g.site board indent (g.emitter board indent []) b).body "function_body").result) := by
  have hdefines : DefinesFunction (tickerCallback b.id) b := ⟨_, hk, List.mem_singleton_self _⟩
  obtain ⟨last, hlast⟩ := exists_lastEmitted (P := DefinesFunction (tickerCallback b.id)) h hdefines
  obtain ⟨k, -, hname⟩ := hlast.property
  obtain ⟨-, hid⟩ := defined_tickerCallback hname
  obtain ⟨_, hmem⟩ := hlast.mem
  obtain rfl : last = b :=
    hdistinct.eq_of_id (mem_blocks_of_emitted hmem) (mem_blocks_of_emitted h) hid
  obtain ⟨k, before, hkind, htext⟩ := hlast.leaves_function hg
  obtain rfl : k = .time .ticker := Option.some.inj (hkind.symm.trans hk)
  rw [← htext]
  exact deposit_ticker (g.site board indent (g.emitter board indent []) last) before

lemma declaration_of_ticker (h : (b, fragment) ∈ emitted g board indent)
    (hk : b.kind? = some (.time .ticker)) :
    (finalRegistry g board indent).declarations.get? (ticker b.id) =
      some ("Ticker " ++ ticker b.id ++ ";") := by
  have hscript : Ensures board (Kind.emit g b (.time .ticker)) fun own _ =>
      .register (.declaration (ticker b.id) ("Ticker " ++ ticker b.id ++ ";")) ∈ own :=
    fun _ _ _ _ _ _ => .tail _ (.head _)
  obtain ⟨own, hmem, hown⟩ := ensured_of_emitted h hk hscript
  have hregistered : ((finalRegistry g board indent).declarations.get? (ticker b.id)).isSome :=
    registered_of_mem (hown hmem) {}
  obtain ⟨text, htext⟩ := Option.isSome_iff_exists.mp hregistered
  -- Whoever registered it last, all declarations under the key are alike.
  obtain ⟨p, s, hkey, opening, closing, hopens, hcloses, hdeclares⟩ :=
    finalRegistry_holds.declarations _ (Keyed.mem_entries_of_get? htext)
  obtain ⟨rfl, rfl⟩ := Peripheral.key_injective (p := .ticker) hkey
  obtain rfl : opening = "Ticker " := hopens
  obtain rfl : closing = ";" := hcloses
  rw [htext]
  exact congrArg some hdeclares

end Runs

/-- Tickers never share a callback. The spelling of ids is injective and consists of letters,
digits and underscores. So in a graph with distinct ids and no cycles the emitted tickers have names
of their own, under which no block of another kind registers, and the function that a ticker is
attached to has the body of its block. -/
theorem tickers_stay_apart :
    Function.Injective Code.identifierSuffix ∧
    (∀ id, ∀ c ∈ (Code.identifierSuffix id).toList, c.isAlphanum ∨ c = '_') ∧
    ∀ g : Graph, g.Distinct → g.Acyclic → ∀ (board : Board) (options : Options),
      let gen := Generator.new g board options
      let registry := finalRegistry g board options.indent
      gen.program.sections = registry.sections ∧
      (∀ entry ∈ emitted g board options.indent, ∀ entry' ∈ emitted g board options.indent,
        entry.1.kind? = some (.time .ticker) → entry'.1.kind? = some (.time .ticker) →
        entry.1 ≠ entry'.1 → ticker entry.1.id ≠ ticker entry'.1.id ∧
          tickerCallback entry.1.id ≠ tickerCallback entry'.1.id) ∧
      (∀ busy c k, k ≠ .time .ticker → ∀ id,
        ∀ e ∈ blockRegistrations g board options.indent busy c k, Grants (fun x =>
          x.slot ≠ .function (tickerCallback id) ∧ x.slot ≠ .declaration (ticker id)) e) ∧
      ∀ b fragment, (b, fragment) ∈ emitted g board options.indent →
        b.kind? = some (.time .ticker) →
          fragment = .statement (ticker b.id ++ ".attach(&" ++ tickerCallback b.id ++ "," ++
            b.textOr "ticks" "1" ++ ");\n") ∧
          registry.functions.get? (tickerCallback b.id) =
            some (Code.functionText "void" (tickerCallback b.id) []
              ((gen.site b).body "function_body").result) ∧
          registry.declarations.get? (ticker b.id) = some ("Ticker " ++ ticker b.id ++ ";") := by
  refine ⟨Code.identifierSuffix_injective, fun _ _ => Code.mem_identifierSuffix, ?_⟩
  intro g hdistinct hg board options gen registry
  refine ⟨sections_program g board options, ?_, fun _ _ _ hk id => grants_apart hk id, ?_⟩
  · intro entry hentry entry' hentry' _ _ hne
    have hid : entry.1.id ≠ entry'.1.id := fun hid =>
      hne (hdistinct.eq_of_id (mem_blocks_of_emitted hentry) (mem_blocks_of_emitted hentry') hid)
    exact ⟨ticker_injective.ne hid, tickerCallback_injective.ne hid⟩
  · intro b fragment h hk
    exact ⟨(fragment_of_emitted hg h hk).symm, function_of_ticker hdistinct hg h hk,
      declaration_of_ticker h hk⟩

def outerTicker : Block :=
  { id := "a-b"
    kind := "ticker_attach"
    statements := Dict.insert {} "function_body" "a_2d_b" }

def innerTicker : Block := { id := "a_2d_b", kind := "ticker_attach" }

/-- A ticker in the callback of another, whose id is spelled like the id of the inner one. -/
def nestedTickers : Graph := { blocks := [outerTicker, innerTicker] }

theorem tickers_stay_apart_nested :
    nestedTickers.Distinct ∧ nestedTickers.Acyclic ∧
    Code.identifierSuffix outerTicker.id = innerTicker.id ∧
    tickerCallback outerTicker.id ≠ tickerCallback innerTicker.id ∧
    (finalRegistry nestedTickers Board.Nucleo.profile "  ").functions.get?
        (tickerCallback outerTicker.id) =
      some (Code.functionText "void" (tickerCallback outerTicker.id) []
        "  ticka_5f_2d_5f_b.attach(&ticka_5f_2d_5f_b_handle,1);\n") := by
  have hdistinct : nestedTickers.Distinct := by
    unfold Graph.Distinct
    decide
  have hacyclic : nestedTickers.Acyclic :=
    Graph.acyclic_of_rank (fun id => if id = "a-b" then 1 else 0) (by decide)
  have hemitted : emitted nestedTickers Board.Nucleo.profile "  " =
      [(innerTicker, .statement "ticka_5f_2d_5f_b.attach(&ticka_5f_2d_5f_b_handle,1);\n"),
        (outerTicker, .statement "ticka_2d_b.attach(&ticka_2d_b_handle,1);\n")] := by
    decide +kernel
  have hinner := hemitted ▸ List.mem_cons_self
  have houter := hemitted ▸ List.mem_cons_of_mem _ List.mem_cons_self
  have hkind : outerTicker.kind? = some (.time .ticker) := rfl
  obtain ⟨-, hapart, -, hown⟩ :=
    tickers_stay_apart.2.2 nestedTickers hdistinct hacyclic Board.Nucleo.profile {}
  obtain ⟨-, hcallbacks⟩ := hapart _ houter _ hinner hkind rfl (by decide)
  obtain ⟨-, hfunction, -⟩ := hown _ _ houter hkind
  have hbody : (((Generator.new nestedTickers Board.Nucleo.profile {}).site outerTicker).body
      "function_body").result = "  ticka_5f_2d_5f_b.attach(&ticka_5f_2d_5f_b_handle,1);\n" := by
    decide +kernel
  rw [hbody] at hfunction
  exact ⟨hdistinct, hacyclic, by decide +kernel, hcallbacks, hfunction⟩

end Proofs

end MbedBlocks
