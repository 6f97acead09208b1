import ExprLex.Proofs.Operator.Registration
import Mathlib.Data.List.Induction
import Mathlib.Data.List.Nodup

/-!
# The Entries of a Table

A table that grows by registrations alone is determined by the list of them: it has the characters
in the order in which they first occur there, each with the operators that stand beside it
(`registerAll_grouped`). In such a table no character is listed twice and none is listed without
operators. This is kept by a registration, and it is what a copy needs: when everything is
registered again, the entries come out as they were (`WellFormed.copy_eq`).
-/

namespace ExprLex.OperatorTable

variable {table extended : OperatorTable} {symbol : String} {op : Operator} {c : Char}
  {entries : List (Char × List Operator)}

/-! ## The characters -/

/-- A character that is new comes last, and one that is known keeps its place. -/
theorem keys_addVariant (c : Char) (op : Operator) (entries : List (Char × List Operator)) :
    (addVariant c op entries).map Prod.fst =
      entries.map Prod.fst ++ if c ∈ entries.map Prod.fst then [] else [c] := by
  induction entries with
  | nil => rfl
  | cons entry rest ih =>
    obtain ⟨key, ops⟩ := entry
    rw [addVariant]
    by_cases hkey : key = c
    · simp [hkey]
    · have hmem : c ∈ key :: rest.map Prod.fst ↔ c ∈ rest.map Prod.fst := by
        rw [List.mem_cons, or_iff_right (Ne.symm hkey)]
      rw [if_neg hkey, List.map_cons, ih]
      simp only [List.map_cons, List.cons_append, hmem]

/-- No registration leaves a character without operators. -/
theorem mem_addVariant {entry : Char × List Operator} (h : entry ∈ addVariant c op entries) :
    entry ∈ entries ∨ entry.2 ≠ [] := by
  induction entries with
  | nil =>
    obtain rfl := List.mem_singleton.mp h
    exact .inr (List.cons_ne_nil _ _)
  | cons head rest ih =>
    obtain ⟨key, ops⟩ := head
    rw [addVariant] at h
    split at h
    · rcases List.mem_cons.mp h with rfl | hrest
      · -- the entry that gets the operator has one
        exact .inr (by simp)
      · exact .inl (List.mem_cons_of_mem _ hrest)
    · rcases List.mem_cons.mp h with rfl | hrest
      · exact .inl List.mem_cons_self
      · exact (ih hrest).imp_left (List.mem_cons_of_mem _)

/-! ## Well-formed tables -/

/-- What holds of every table that is made by registrations. -/
structure WellFormed (table : OperatorTable) : Prop where
  /-- No character is listed twice. -/
  nodup_characters : table.characters.Nodup
  /-- No character is listed without operators. -/
  operators_ne_nil : ∀ entry ∈ table.entries, entry.2 ≠ []

theorem wellFormed_empty : empty.WellFormed where
  nodup_characters := List.nodup_nil
  operators_ne_nil _ hentry := by cases hentry

/-- A registration under a new character puts it behind the others. -/
theorem characters_register (h : table.register symbol op = .ok extended) :
    ∃ c, symbol = String.singleton c ∧
      extended.characters = table.characters ++ if c ∈ table.characters then [] else [c] := by
  obtain ⟨-, c, rfl, rfl⟩ := register_eq_ok_iff.mp h
  exact ⟨c, rfl, keys_addVariant c op table.entries⟩

/-- A registration neither repeats a character nor leaves one without operators. -/
theorem WellFormed.register (hs : table.WellFormed) (h : table.register symbol op = .ok extended) :
    extended.WellFormed := by
  constructor
  · obtain ⟨c, -, hcharacters⟩ := characters_register h
    rw [hcharacters]
    by_cases hc : c ∈ table.characters
    · simpa [hc] using hs.nodup_characters
    · rw [if_neg hc, ← List.concat_eq_append]
      exact hs.nodup_characters.concat hc
  · obtain ⟨-, c, -, rfl⟩ := register_eq_ok_iff.mp h
    intro entry hentry
    exact (mem_addVariant hentry).elim (hs.operators_ne_nil entry) id

/-- What holds after one registration holds after any number of them. -/
theorem WellFormed.registerAll {registered : List (String × Operator)} (hs : table.WellFormed)
    (h : table.registerAll registered = .ok extended) : extended.WellFormed := by
  induction registered generalizing table with
  | nil =>
    cases h
    exact hs
  | cons entry rest ih =>
    obtain ⟨next, hnext, hrest⟩ := registerAll_cons_eq_ok_iff.mp h
    exact ih (hs.register hnext) hrest

/-- A table that is built is well-formed, whatever it is built with. -/
theorem wellFormed_of_ofEntries {built : List (String × List Operator)}
    (h : ofEntries built = .ok table) : table.WellFormed :=
  wellFormed_empty.registerAll h

/-- The standard table lists no character twice, and none without operators. -/
theorem wellFormed_standard : standard.WellFormed := by
  constructor <;> decide

/-- The characters with operators are the ones that are listed. -/
theorem WellFormed.mem_characters_iff (hs : table.WellFormed) :
    c ∈ table.characters ↔ table.variants (String.singleton c) ≠ [] := by
  rw [variants_singleton, variantsOf, characters]
  cases hlookup : table.entries.lookup c with
  | none =>
    have hne := List.lookup_eq_none_iff.mp hlookup
    have hnot : c ∉ table.entries.map Prod.fst := by
      rintro hmem
      obtain ⟨entry, hentry, rfl⟩ := List.mem_map.mp hmem
      simpa using hne entry hentry
    simp [hnot]
  | some ops =>
    obtain ⟨before, after, hentries, -⟩ := List.lookup_eq_some_iff.mp hlookup
    have hentry : (c, ops) ∈ table.entries := by simp [hentries]
    simp [hs.operators_ne_nil _ hentry, List.mem_map_of_mem (f := Prod.fst) hentry]

/-! ## Registrations and entries -/

/-- Registrations by character, in the order in which the characters first occur. -/
def grouped (log : List (Char × Operator)) : List (Char × List Operator) :=
  (log.map Prod.fst).eraseDups.map fun c => (c, (log.filter (·.1 = c)).map Prod.snd)

/-- The registrations that lead to entries, character by character. -/
def flat (entries : List (Char × List Operator)) : List (Char × Operator) :=
  entries.flatMap fun (c, ops) => ops.map (c, ·)

/-- Registrations with characters as symbols. -/
def asSymbols (log : List (Char × Operator)) : List (String × Operator) :=
  log.map fun (c, op) => (String.singleton c, op)

theorem eraseDups_append_singleton {α : Type} [DecidableEq α] (xs : List α) (x : α) :
    (xs ++ [x]).eraseDups = xs.eraseDups ++ if x ∈ xs then [] else [x] := by
  rw [List.eraseDups_append]
  by_cases hx : x ∈ xs <;> simp [List.removeAll, List.eraseDups_cons, hx]

theorem nodup_eraseDups {α : Type} [DecidableEq α] (xs : List α) : xs.eraseDups.Nodup := by
  induction xs using List.reverseRecOn with
  | nil => exact List.nodup_nil
  | append_singleton xs x ih =>
    rw [eraseDups_append_singleton]
    by_cases hx : x ∈ xs
    · simpa [hx] using ih
    · rw [if_neg hx, ← List.concat_eq_append]
      exact ih.concat fun hmem => hx (List.mem_eraseDups.mp hmem)

/-- An operator is added to a list of characters that are told with their operators. -/
theorem addVariant_map {cs : List Char} {operators : Char → List Operator} (hnodup : cs.Nodup)
    (hnew : c ∉ cs → operators c = []) :
    addVariant c op (cs.map fun d => (d, operators d)) =
      (cs ++ if c ∈ cs then [] else [c]).map fun d =>
        (d, operators d ++ if d = c then [op] else []) := by
  induction cs with
  | nil => simp [addVariant, hnew List.not_mem_nil]
  | cons d rest ih =>
    obtain ⟨hd, hrest⟩ := List.nodup_cons.mp hnodup
    rw [List.map_cons, addVariant]
    by_cases hdc : d = c
    · -- the others are not the one that gets the operator
      subst hdc
      have hothers : (rest.map fun e => (e, operators e)) =
          rest.map fun e => (e, operators e ++ if e = d then [op] else []) := by
        apply List.map_congr_left
        intro e he
        have hed : e ≠ d := fun hed => hd (hed ▸ he)
        simp [hed]
      simp [hothers]
    · -- the operator goes to one of the others, or to a new entry behind them
      rw [if_neg hdc, ih hrest fun hc => hnew (by simp [hc, Ne.symm hdc])]
      simp [hdc, Ne.symm hdc]

/-- **One registration.** The entries that belong to a list of registrations become those that
belong to the longer list. -/
theorem addVariant_grouped (c : Char) (op : Operator) (log : List (Char × Operator)) :
    addVariant c op (grouped log) = grouped (log ++ [(c, op)]) := by
  have hnew (hc : c ∉ (log.map Prod.fst).eraseDups) :
      (log.filter (·.1 = c)).map Prod.snd = [] := by
    rw [List.map_eq_nil_iff, List.filter_eq_nil_iff]
    intro entry hentry hkey
    exact hc (List.mem_eraseDups.mpr (List.mem_map.mpr ⟨entry, hentry, of_decide_eq_true hkey⟩))
  have hkeys : ((log ++ [(c, op)]).map Prod.fst).eraseDups =
      (log.map Prod.fst).eraseDups ++ if c ∈ log.map Prod.fst then [] else [c] := by
    rw [List.map_append]
    exact eraseDups_append_singleton _ c
  rw [grouped, addVariant_map (nodup_eraseDups _) hnew, grouped, hkeys]
  simp only [List.mem_eraseDups]
  apply List.map_congr_left
  intro d _
  by_cases hdc : d = c
  · simp [hdc]
  · simp [hdc, Ne.symm hdc]

/-- **Registrations.** A table that has the entries of a list of registrations takes any others
behind them, and then has the entries of all. -/
theorem registerAll_grouped (log more : List (Char × Operator)) :
    registerAll ⟨grouped log, false⟩ (asSymbols more) = .ok ⟨grouped (log ++ more), false⟩ := by
  induction more generalizing log with
  | nil => rw [List.append_nil]; rfl
  | cons entry rest ih =>
    obtain ⟨c, op⟩ := entry
    have hregister : register ⟨grouped log, false⟩ (String.singleton c) op =
        .ok ⟨grouped (log ++ [(c, op)]), false⟩ :=
      register_eq_ok_iff.mpr ⟨rfl, c, rfl, by rw [addVariant_grouped]⟩
    rw [asSymbols, List.map_cons, registerAll_cons_eq_ok_iff, List.append_cons]
    exact ⟨_, hregister, ih _⟩

/-! ## Copies -/

/-- The repetitions of a character at the front are one entry. -/
theorem eraseDups_append_of_forall_eq {cs rest : List Char} (hne : cs ≠ []) (hcs : ∀ d ∈ cs, d = c)
    (hrest : c ∉ rest) : (cs ++ rest).eraseDups = c :: rest.eraseDups := by
  cases cs with
  | nil => exact absurd rfl hne
  | cons d more =>
    obtain ⟨rfl, hmore⟩ := List.forall_mem_cons.mp hcs
    have hfiltered : (more ++ rest).filter (fun e => !e == d) = rest := by
      rw [List.filter_append, List.filter_eq_nil_iff.mpr, List.filter_eq_self.mpr, List.nil_append]
      · intro e he
        have hed : e ≠ d := fun hed => hrest (hed ▸ he)
        simpa using hed
      · intro e he
        simp [hmore e he]
    rw [List.cons_append, List.eraseDups_cons, hfiltered]

/-- Registrations of one character in front of those of others make an entry in front. -/
theorem grouped_append {ops : List Operator} {log : List (Char × Operator)} (hne : ops ≠ [])
    (hc : c ∉ log.map Prod.fst) :
    grouped (ops.map (c, ·) ++ log) = (c, ops) :: grouped log := by
  have hkeys : ((ops.map (c, ·) ++ log).map Prod.fst).eraseDups =
      c :: (log.map Prod.fst).eraseDups := by
    rw [List.map_append]
    exact eraseDups_append_of_forall_eq (by simpa using hne) (by simp) hc
  -- no other registration is of this character, and these are of no other one
  have hlog : log.filter (·.1 = c) = [] := by
    rw [List.filter_eq_nil_iff]
    intro entry hentry hkey
    exact hc (List.mem_map.mpr ⟨entry, hentry, of_decide_eq_true hkey⟩)
  have hops : (ops.map (c, ·)).filter (·.1 = c) = ops.map (c, ·) := by
    rw [List.filter_eq_self]
    simp
  rw [grouped, hkeys, List.map_cons, List.filter_append, hlog, hops, List.append_nil, List.map_map]
  congr 1
  · simp [Function.comp_def]
  · apply List.map_congr_left
    intro d hd
    -- for another character, only the others count
    have hcd : c ≠ d := fun hcd => hc (hcd ▸ List.mem_eraseDups.mp hd)
    have hothers : (ops.map (c, ·)).filter (·.1 = d) = [] := by
      rw [List.filter_eq_nil_iff]
      simp [hcd]
    rw [List.filter_append, hothers, List.nil_append]

/-- Entries without repetitions and without empty lists come back from their registrations. -/
theorem grouped_flat (hnodup : (entries.map Prod.fst).Nodup)
    (hne : ∀ entry ∈ entries, entry.2 ≠ []) : grouped (flat entries) = entries := by
  induction entries with
  | nil => rfl
  | cons entry rest ih =>
    obtain ⟨c, ops⟩ := entry
    obtain ⟨hops, hothers⟩ := List.forall_mem_cons.mp hne
    obtain ⟨hc, hrest⟩ := List.nodup_cons.mp hnodup
    -- the first character does not occur in the other entries
    have hflat : c ∉ (flat rest).map Prod.fst := by
      intro hmem
      obtain ⟨pair, hpair, rfl⟩ := List.mem_map.mp hmem
      obtain ⟨other, hother, hin⟩ := List.mem_flatMap.mp hpair
      obtain ⟨op, -, rfl⟩ := List.mem_map.mp hin
      exact hc (List.mem_map.mpr ⟨other, hother, rfl⟩)
    rw [flat, List.flatMap_cons, ← flat, grouped_append hops hflat, ih hrest hothers]

/-- A copy is made from the registrations that lead to the entries. -/
theorem asSymbols_flat (entries : List (Char × List Operator)) :
    asSymbols (flat entries) = (entries.map fun (c, ops) => (String.singleton c, ops)).flatMap
      fun (symbol, ops) => ops.map (symbol, ·) := by
  rw [asSymbols, flat, List.map_flatMap, List.flatMap_map]
  simp [Function.comp_def]

/-- **Copies.** A copy has the entries of the table, and is not read-only. -/
theorem WellFormed.copy_eq (hs : table.WellFormed) :
    table.copy = .ok { table with readOnly := false } := by
  have hregister := registerAll_grouped [] (flat table.entries)
  rw [List.nil_append, grouped_flat hs.nodup_characters hs.operators_ne_nil] at hregister
  rw [copy, ofEntries, ← asSymbols_flat]
  exact hregister

end ExprLex.OperatorTable
