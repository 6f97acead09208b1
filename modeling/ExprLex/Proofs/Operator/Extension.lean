import ExprLex.Proofs.Operator.Entries
import Mathlib.Data.List.Basic
import Mathlib.Data.List.Nodup

/-!
# Tables and Their Extensions

What the readings of a table have to do with each other, and what a table has when operators were
registered in another one. An extension has the operators of its source in front and the
registered ones behind them, and its characters are in the order in which they came in. One
registration keeps this up (`Extends.register`), and so does a sequence of them
(`Extends.registerAll`).
-/

namespace ExprLex

namespace OperatorTable

/-! ## What a table tells -/

/-- An operator passes all tests that are given. -/
def Passes (tests : List (Option OperatorTest)) (op : Operator) : Prop :=
  ∀ test, some test ∈ tests → test op = true

/-- The readings of a table fit together. -/
structure Consistent (table : OperatorTable) : Prop where
  nodup_characters : table.characters.Nodup
  /-- The characters are those with an operator. -/
  mem_characters_iff : ∀ c, c ∈ table.characters ↔ table.variants (String.singleton c) ≠ []
  isOperator_iff : ∀ c, table.isOperator (String.singleton c) = true ↔ c ∈ table.characters
  /-- A look-up finds the first operator that passes. -/
  lookup_eq_some_iff : ∀ symbol tests op, table.lookup symbol tests = some op ↔
    ∃ before after, table.variants symbol = before ++ op :: after ∧ Passes tests op ∧
      ∀ other ∈ before, ¬Passes tests other
  /-- A look-up finds nothing only if no operator passes. -/
  lookup_eq_none_iff : ∀ symbol tests, table.lookup symbol tests = none ↔
    ∀ op ∈ table.variants symbol, ¬Passes tests op
  /-- Only the set of the tests matters. -/
  lookup_congr : ∀ symbol tests tests', (∀ test, some test ∈ tests ↔ some test ∈ tests') →
    table.lookup symbol tests = table.lookup symbol tests'

section Reading

variable {table extended : OperatorTable} {symbol : String} {op : Operator} {c : Char}
  {tests tests' : List (Option OperatorTest)}

theorem isOperator_iff_ne_nil : table.isOperator symbol = true ↔ table.variants symbol ≠ [] := by
  rw [isOperator, Bool.not_eq_true', List.isEmpty_eq_false_iff]

theorem all_tests_iff : (tests.all fun test => test.all (· op)) = true ↔ Passes tests op := by
  rw [List.all_eq_true]
  constructor
  · intro h test hmem
    exact h (some test) hmem
  · intro h test hmem
    cases test with
    | none => rfl
    | some test => exact h test hmem

theorem lookup_eq_some_iff : table.lookup symbol tests = some op ↔
    ∃ before after, table.variants symbol = before ++ op :: after ∧ Passes tests op ∧
      ∀ other ∈ before, ¬Passes tests other := by
  rw [lookup, List.find?_eq_some_iff_append, all_tests_iff]
  simp only [Bool.not_eq_true', Bool.eq_false_iff, ne_eq, all_tests_iff]
  constructor
  · rintro ⟨hop, before, after, hvariants, hbefore⟩
    exact ⟨before, after, hvariants, hop, hbefore⟩
  · rintro ⟨before, after, hvariants, hop, hbefore⟩
    exact ⟨hop, before, after, hvariants, hbefore⟩

theorem lookup_eq_none_iff : table.lookup symbol tests = none ↔
    ∀ op ∈ table.variants symbol, ¬Passes tests op := by
  simp only [lookup, List.find?_eq_none, all_tests_iff]

theorem lookup_congr (h : ∀ test, some test ∈ tests ↔ some test ∈ tests') :
    table.lookup symbol tests = table.lookup symbol tests' := by
  have hpasses (op : Operator) : Passes tests op ↔ Passes tests' op := by
    simp only [Passes, h]
  apply Option.ext
  intro op
  simp only [lookup_eq_some_iff, hpasses]

/-- In a table that is made by registrations, the readings fit together. -/
theorem WellFormed.consistent (hs : table.WellFormed) : table.Consistent where
  nodup_characters := hs.nodup_characters
  mem_characters_iff _ := hs.mem_characters_iff
  isOperator_iff _ := isOperator_iff_ne_nil.trans hs.mem_characters_iff.symm
  lookup_eq_some_iff _ _ _ := lookup_eq_some_iff
  lookup_eq_none_iff _ _ := lookup_eq_none_iff
  lookup_congr _ _ _ := lookup_congr

end Reading

/-! ## Extensions -/

/-- The symbols of a table, and then those of further registrations. -/
def symbolsThen (table : OperatorTable) (registered : List (String × Operator)) : List String :=
  table.characters.map String.singleton ++ registered.map Prod.fst

/-- Characters are in the order in which they first occur among symbols. -/
def InOrderOf (symbols : List String) (cs : List Char) : Prop :=
  cs.Pairwise fun a b =>
    symbols.idxOf (String.singleton a) < symbols.idxOf (String.singleton b)

/-- A table has the operators of its source and behind them those that were registered. -/
structure Extends (source : OperatorTable) (registered : List (String × Operator))
    (table : OperatorTable) : Prop where
  /-- The operators of a symbol are in the order of registration. -/
  variants : ∀ symbol, table.variants symbol =
    source.variants symbol ++ (registered.filter (·.1 = symbol)).map Prod.snd
  /-- The characters are those of the source and those that something was registered under. -/
  mem_characters : ∀ c, c ∈ table.characters ↔
    String.singleton c ∈ source.symbolsThen registered
  /-- The characters are in the order of first registration. -/
  order : InOrderOf (source.symbolsThen registered) table.characters

section Extensions

variable {source table extended : OperatorTable} {symbol : String} {op : Operator}
  {registered more : List (String × Operator)}

theorem symbolsThen_append :
    source.symbolsThen (registered ++ more) =
      source.symbolsThen registered ++ more.map Prod.fst := by
  rw [symbolsThen, symbolsThen, List.map_append, List.append_assoc]

/-- Without repetitions, the order is that of the characters themselves. -/
theorem inOrderOf_of_nodup {cs : List Char} (h : cs.Nodup) :
    InOrderOf (cs.map String.singleton) cs := by
  have hplace (i : Nat) (hi : i < cs.length) :
      (cs.map String.singleton).idxOf (String.singleton cs[i]) = i := by
    have hnodup : (cs.map String.singleton).Nodup := h.map fun _ _ => String.singleton_inj.mp
    have hidxOf := hnodup.idxOf_getElem i (by simpa using hi)
    rwa [List.getElem_map] at hidxOf
  rw [InOrderOf, List.pairwise_iff_getElem]
  intro i j hi hj hij
  rw [hplace i hi, hplace j hj]
  exact hij

/-- More symbols do not change the order of characters that are among the symbols before. -/
theorem InOrderOf.append {symbols later : List String} {cs : List Char} (h : InOrderOf symbols cs)
    (hmem : ∀ c ∈ cs, String.singleton c ∈ symbols) : InOrderOf (symbols ++ later) cs := by
  apply List.Pairwise.imp_of_mem ?_ h
  intro a b ha hb hab
  rwa [List.idxOf_append_of_mem (hmem a ha), List.idxOf_append_of_mem (hmem b hb)]

/-- A symbol that is new comes last. -/
theorem InOrderOf.append_new {symbols : List String} {cs : List Char} {c : Char}
    (h : InOrderOf symbols cs) (hmem : ∀ c ∈ cs, String.singleton c ∈ symbols)
    (hnew : String.singleton c ∉ symbols) :
    InOrderOf (symbols ++ [String.singleton c]) (cs ++ [c]) := by
  rw [InOrderOf, List.pairwise_append]
  refine ⟨h.append hmem, List.pairwise_singleton _ _, ?_⟩
  intro a ha b hb
  obtain rfl := List.mem_singleton.mp hb
  rw [List.idxOf_append_of_mem (hmem a ha), List.idxOf_append_of_notMem hnew]
  have hlt := List.idxOf_lt_length_iff.mpr (hmem a ha)
  omega

/-- A table extends itself by nothing. -/
theorem WellFormed.extends_refl (hs : table.WellFormed) : table.Extends [] table where
  variants symbol := (List.append_nil _).symm
  mem_characters c := by simp [symbolsThen]
  order := by
    rw [symbolsThen, List.map_nil, List.append_nil]
    exact inOrderOf_of_nodup hs.nodup_characters

/-- That a table is read-only has no part in what it has. -/
theorem Extends.setReadOnly (hs : source.Extends registered table) (readOnly : Bool) :
    source.Extends registered { table with readOnly := readOnly } :=
  ⟨hs.variants, hs.mem_characters, hs.order⟩

/-- One more registration comes behind all others. -/
theorem Extends.register (hs : source.Extends registered table)
    (h : table.register symbol op = .ok extended) :
    source.Extends (registered ++ [(symbol, op)]) extended := by
  obtain ⟨c, rfl, hcharacters⟩ := characters_register h
  have hsymbols : source.symbolsThen (registered ++ [(String.singleton c, op)]) =
      source.symbolsThen registered ++ [String.singleton c] := symbolsThen_append
  refine ⟨?_, ?_, ?_⟩
  · intro other
    -- only the symbol of the registration gets one more operator
    rw [variants_register h, hs.variants, List.filter_append, List.map_append, List.append_assoc]
    by_cases hother : other = String.singleton c
    · simp [hother]
    · simp [hother, Ne.symm hother]
  · intro d
    rw [hcharacters, hsymbols, List.mem_append, List.mem_append, hs.mem_characters,
      List.mem_singleton, String.singleton_inj]
    by_cases hc : c ∈ table.characters
    · -- the character was known before
      have hknown (hdc : d = c) : String.singleton d ∈ source.symbolsThen registered :=
        hdc ▸ (hs.mem_characters c).mp hc
      simpa [hc] using hknown
    · rw [if_neg hc, List.mem_singleton]
  · have hmem (a : Char) (ha : a ∈ table.characters) :
        String.singleton a ∈ source.symbolsThen registered :=
      (hs.mem_characters a).mp ha
    rw [hsymbols, hcharacters]
    by_cases hc : c ∈ table.characters
    · rw [if_pos hc, List.append_nil]
      exact hs.order.append hmem
    · rw [if_neg hc]
      exact hs.order.append_new hmem fun hnew => hc ((hs.mem_characters c).mpr hnew)

/-- Registrations do not make a table read-only. -/
theorem readOnly_register (h : table.register symbol op = .ok extended) :
    extended.readOnly = table.readOnly := by
  obtain ⟨-, c, -, rfl⟩ := register_eq_ok_iff.mp h
  rfl

/-- Registrations come behind all others in their order. -/
theorem Extends.registerAll (hs : source.Extends registered table)
    (h : table.registerAll more = .ok extended) :
    source.Extends (registered ++ more) extended ∧ extended.readOnly = table.readOnly := by
  induction more generalizing registered table with
  | nil =>
    cases h
    rw [List.append_nil]
    exact ⟨hs, rfl⟩
  | cons entry rest ih =>
    obtain ⟨next, hnext, hrest⟩ := registerAll_cons_eq_ok_iff.mp h
    obtain ⟨hextends, hreadOnly⟩ := ih (hs.register hnext) hrest
    rw [List.append_cons]
    exact ⟨hextends, hreadOnly.trans (readOnly_register hnext)⟩

/-- A table that is built has what it was built with. -/
theorem extends_of_ofEntries {entries : List (String × List Operator)}
    (h : ofEntries entries = .ok table) :
    empty.Extends (entries.flatMap fun (symbol, ops) => ops.map (symbol, ·)) table ∧
      table.readOnly = false :=
  wellFormed_empty.extends_refl.registerAll h

/-- The standard table has its eight operators, two for each of the signs. -/
theorem extends_standard :
    empty.Extends [("+", .plus), ("+", .addition), ("-", .minus), ("-", .subtraction),
      ("*", .multiplication), ("/", .division), ("^", .power), ("!", .factorial)] standard := by
  have hbuilt : ofEntries [("+", [.plus, .addition]), ("-", [.minus, .subtraction]),
      ("*", [.multiplication]), ("/", [.division]), ("^", [.power]), ("!", [.factorial])] =
        .ok { standard with readOnly := false } := rfl
  exact (extends_of_ofEntries hbuilt).1.setReadOnly true

end Extensions

end OperatorTable

end ExprLex
