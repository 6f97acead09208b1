import ExprLex.OperatorTable.Store
import ExprLex.Proofs.Operator.Extension

/-!
# Histories of Operator Tables

In a run of registrations and copies over any number of tables, a table is told by where it comes
from and by what was registered in it since. It extends its source, which is a first table or a
table at the moment of its copy, by exactly the registrations that it took itself. One change of
the store keeps this up (`Changed.exists_extends`), and so does a run (`exists_applyAll`). All
tables of a run stay well-formed (`wellFormed_applyAll`), which is why a copy has the entries of the
table that it is made of. A registration is refused for what is not a single character and by the
read-only tables among the first ones, and then no table changes.
-/

namespace ExprLex

namespace OperatorTable

namespace Store

/-! ## What is recorded of a run -/

/-- Whether a registration succeeds. -/
def accepts (store : Store) (index : Nat) (symbol : String) (op : Operator) : Bool :=
  match store[index]? with
  | some table => (table.register symbol op).isOk
  | none => false

/-- What a change registers in a table. -/
def registeredBy (store : Store) (r : Nat) : Change → List (String × Operator)
  | .register index symbol op =>
    if index = r ∧ store.accepts index symbol op then [(symbol, op)] else []
  | .copy _ => []

/-- What a run registers in a table. -/
def registered (r : Nat) : Store → List Change → List (String × Operator)
  | _, [] => []
  | store, change :: rest => store.registeredBy r change ++ registered r (store.apply change) rest

/-- Where a table of a run comes from: the table as it was then, and the store and the changes
from there on. -/
inductive Origin (origins : Store) (changes : List Change) (r : Nat) :
    OperatorTable → Store → List Change → Prop where
  /-- The table is one of the first ones. -/
  | first {table : OperatorTable} : origins[r]? = some table →
      Origin origins changes r table origins changes
  /-- The table was made by a copy. -/
  | copied {before after : List Change} {index : Nat} {table : OperatorTable} :
      changes = before ++ .copy index :: after →
      (origins.applyAll before)[index]? = some table → (origins.applyAll before).length = r →
      Origin origins changes r table (origins.applyAll (before ++ [.copy index])) after

/-- The history of a table in a run. -/
structure Recorded (origins : Store) (changes : List Change) (r : Nat) (table : OperatorTable) :
    Prop where
  /-- The table was there from the start or was made by a copy. -/
  origin : ∃ source store since, Origin origins changes r source store since
  /-- It is what it was then, and behind that what was registered in it since. -/
  extended : ∀ source store since, Origin origins changes r source store since →
    source.Extends (store.registered r since) table
  /-- It takes single characters, unless it is a first table that is read-only. -/
  accepts_iff : ∀ symbol op, (origins.applyAll changes).accepts r symbol op = true ↔
    symbol.length = 1 ∧ ¬∃ first, origins[r]? = some first ∧ first.readOnly = true
  /-- What it does not take is refused, and no table changes. -/
  refused : ∀ symbol op, (origins.applyAll changes).accepts r symbol op = false →
    (origins.applyAll changes).perform (.register r symbol op) =
        .error (if table.readOnly then .readOnly else .notSingle symbol) ∧
      origins.applyAll (changes ++ [.register r symbol op]) = origins.applyAll changes
  /-- A copy of it comes in behind all tables. The copy has the same entries, and takes every
  single character. -/
  copied : ∃ added, origins.applyAll (changes ++ [.copy r]) = origins.applyAll changes ++ [added] ∧
    added.entries = table.entries ∧
      ∀ symbol op, (origins.applyAll (changes ++ [.copy r])).accepts
        (origins.applyAll changes).length symbol op = true ↔ symbol.length = 1

/-! ## Changes and runs -/

/-- What a change can make of a store. -/
inductive Changed (store : Store) : Change → Store → Prop where
  /-- Nothing is registered and nothing is copied. -/
  | idle {change : Change} : (∀ r, store.registeredBy r change = []) → Changed store change store
  /-- An operator is registered in a table, and no other table changes. -/
  | registered {index : Nat} {symbol : String} {op : Operator} {table extended : OperatorTable} :
      store[index]? = some table → table.register symbol op = .ok extended →
      Changed store (.register index symbol op) (store.set index extended)
  /-- A table comes in behind the others. -/
  | copied {index : Nat} {table added : OperatorTable} :
      store[index]? = some table → table.copy = .ok added →
      Changed store (.copy index) (store ++ [added])

section Changes

variable {store after origins : Store} {source table extended : OperatorTable} {symbol : String}
  {op : Operator} {r index : Nat} {change : Change} {changes : List Change}
  {pairs : List (String × Operator)}

theorem accepts_iff_exists : store.accepts index symbol op = true ↔
    ∃ table extended, store[index]? = some table ∧ table.register symbol op = .ok extended := by
  unfold accepts
  cases hindex : store[index]? with
  | none => simp
  | some table =>
    cases hregister : table.register symbol op with
    | ok extended => simp [hregister, Except.isOk, Except.toBool]
    | error e => simp [hregister, Except.isOk, Except.toBool]

/-- A table takes a registration exactly if the symbol is one character and the table is not
read-only. -/
theorem accepts_iff (h : store[index]? = some table) :
    store.accepts index symbol op = true ↔ symbol.length = 1 ∧ table.readOnly = false := by
  have hlength : symbol.length = 1 ↔ ∃ c, symbol = String.singleton c := by
    rw [← String.length_toList, List.length_eq_one_iff]
    simp only [← String.toList_inj, String.toList_singleton]
  rw [accepts_iff_exists, hlength]
  constructor
  · rintro ⟨found, extended, hfound, hregister⟩
    obtain rfl := Option.some.inj (h.symm.trans hfound)
    obtain ⟨hreadOnly, c, hc, -⟩ := register_eq_ok_iff.mp hregister
    exact ⟨⟨c, hc⟩, hreadOnly⟩
  · rintro ⟨⟨c, hc⟩, hreadOnly⟩
    exact ⟨table, _, h, register_eq_ok_iff.mpr ⟨hreadOnly, c, hc, rfl⟩⟩

theorem registeredBy_of_not_accepts (h : store.accepts index symbol op = false) (r : Nat) :
    store.registeredBy r (.register index symbol op) = [] := by
  simp [registeredBy, h]

/-- What is not taken by a table of the store is refused. -/
theorem perform_register_of_not_accepts (hindex : store[index]? = some table)
    (h : store.accepts index symbol op = false) :
    store.perform (.register index symbol op) =
      .error (if table.readOnly then .readOnly else .notSingle symbol) := by
  have hnot (extended : OperatorTable) : table.register symbol op ≠ .ok extended := by
    intro hregister
    rw [accepts_iff_exists.mpr ⟨table, extended, hindex, hregister⟩] at h
    cases h
  simp only [perform, register, hindex, register_eq_error hnot]

/-- Every change is one of the three, whatever the store. -/
theorem changed_apply (store : Store) (change : Change) :
    Changed store change (store.apply change) := by
  cases change with
  | register index symbol op =>
    cases haccepts : store.accepts index symbol op with
    | true =>
      obtain ⟨table, extended, hindex, hregister⟩ := accepts_iff_exists.mp haccepts
      simpa only [apply, perform, register, hindex, hregister] using
        Changed.registered hindex hregister
    | false =>
      -- a table that is not there or that refuses the registration stays as it is
      have hidle := Changed.idle (registeredBy_of_not_accepts haccepts)
      cases hindex : store[index]? with
      | none => simpa only [apply, perform, register, hindex] using hidle
      | some table =>
        simpa only [apply, perform_register_of_not_accepts hindex haccepts] using hidle
  | copy index =>
    cases hindex : store[index]? with
    | none => simpa only [apply, perform, copy, hindex] using Changed.idle fun _ => rfl
    | some table =>
      cases hcopy : table.copy with
      | ok added =>
        simpa only [apply, perform, copy, hindex, hcopy] using Changed.copied hindex hcopy
      | error e => simpa only [apply, perform, copy, hindex, hcopy] using Changed.idle fun _ => rfl

/-- **One change.** A table stays in its place, and gets behind what it has what the change
registers in it. -/
theorem Changed.exists_extends (h : Changed store change after) (hr : store[r]? = some table)
    (hs : source.Extends pairs table) :
    ∃ next, after[r]? = some next ∧ next.readOnly = table.readOnly ∧
      source.Extends (pairs ++ store.registeredBy r change) next := by
  have hlt : r < store.length := (List.getElem?_eq_some_iff.mp hr).1
  cases h with
  | idle hidle => exact ⟨table, hr, rfl, by simpa [hidle r] using hs⟩
  | @registered index symbol op found extended hfound hregister =>
    have haccepts := accepts_iff_exists.mpr ⟨found, extended, hfound, hregister⟩
    by_cases hindex : index = r
    · -- the registration is in this table
      subst hindex
      obtain rfl := Option.some.inj (hr.symm.trans hfound)
      refine ⟨extended, List.getElem?_set_self hlt, readOnly_register hregister, ?_⟩
      simpa [registeredBy, haccepts] using hs.register hregister
    · refine ⟨table, ?_, rfl, by simpa [registeredBy, hindex] using hs⟩
      rw [List.getElem?_set_ne hindex, hr]
  | copied _ _ =>
    refine ⟨table, ?_, rfl, by simpa [registeredBy] using hs⟩
    rw [List.getElem?_append_left hlt, hr]

/-- **Runs.** A table has behind what it had what the run registers in it. -/
theorem exists_applyAll (changes : List Change) (hr : store[r]? = some table)
    (hs : source.Extends pairs table) :
    ∃ last, (store.applyAll changes)[r]? = some last ∧ last.readOnly = table.readOnly ∧
      source.Extends (pairs ++ store.registered r changes) last := by
  induction changes generalizing store table pairs with
  | nil => exact ⟨table, hr, rfl, by simpa [registered] using hs⟩
  | cons change rest ih =>
    obtain ⟨next, hnext, hreadOnly, hextends⟩ :=
      (changed_apply store change).exists_extends hr hs
    obtain ⟨last, hlast, hlastReadOnly, hlastExtends⟩ := ih hnext hextends
    refine ⟨last, hlast, hlastReadOnly.trans hreadOnly, ?_⟩
    rwa [registered, ← List.append_assoc]

/-- A change keeps all tables well-formed. -/
theorem Changed.wellFormed (h : Changed store change after)
    (hs : ∀ table ∈ store, table.WellFormed) : ∀ table ∈ after, table.WellFormed := by
  intro next hnext
  cases h with
  | idle _ => exact hs next hnext
  | registered hindex hregister =>
    rcases List.mem_or_eq_of_mem_set hnext with hold | rfl
    · exact hs next hold
    · exact (hs _ (List.mem_of_getElem? hindex)).register hregister
  | copied _ hcopy =>
    rcases List.mem_append.mp hnext with hold | hnew
    · exact hs next hold
    · obtain rfl := List.mem_singleton.mp hnew
      exact wellFormed_of_ofEntries hcopy

/-- A run keeps all tables well-formed. -/
theorem wellFormed_applyAll (changes : List Change) (hs : ∀ table ∈ store, table.WellFormed) :
    ∀ table ∈ store.applyAll changes, table.WellFormed := by
  induction changes generalizing store with
  | nil => exact hs
  | cons change rest ih => exact ih ((changed_apply store change).wellFormed hs)

/-- A copy of a well-formed table comes in behind the others, and can be extended. -/
theorem apply_copy (hindex : store[index]? = some table) (hs : table.WellFormed) :
    store.apply (.copy index) = store ++ [{ table with readOnly := false }] := by
  simp only [apply, perform, copy, hindex, hs.copy_eq]

theorem applyAll_append (changes more : List Change) :
    store.applyAll (changes ++ more) = (store.applyAll changes).applyAll more :=
  List.foldl_append

/-! ## Origins -/

theorem applyAll_concat (changes : List Change) (change : Change) :
    origins.applyAll (changes ++ [change]) = (origins.applyAll changes).apply change :=
  applyAll_append changes [change]

/-- A change adds at most one table, and it does so by a copy. -/
theorem Changed.exists_copy (h : Changed store change after) (hold : store.length ≤ r)
    (hnew : r < after.length) :
    ∃ index table, change = .copy index ∧ store[index]? = some table ∧ store.length = r := by
  cases h with
  | idle _ => omega
  | registered _ _ =>
    rw [List.length_set] at hnew
    omega
  | @copied index table _ hindex _ =>
    rw [List.length_append, List.length_singleton] at hnew
    exact ⟨index, table, rfl, hindex, by omega⟩

/-- Every table of a run was there from the start or was made by a copy. -/
theorem exists_origin (changes : List Change) (h : r < (origins.applyAll changes).length) :
    ∃ source store since, Origin origins changes r source store since := by
  -- induction on the changes from the end, where the table may have been made
  induction changes using List.reverseRecOn with
  | nil => exact ⟨_, _, _, .first (List.getElem?_eq_getElem h)⟩
  | append_singleton before change ih =>
    by_cases hold : r < (origins.applyAll before).length
    · obtain ⟨source, store, since, horigin⟩ := ih hold
      cases horigin with
      | first hfirst => exact ⟨_, _, _, .first hfirst⟩
      | copied hchanges hindex hlength =>
        refine ⟨source, _, since ++ [change], .copied ?_ hindex hlength⟩
        rw [hchanges, List.append_assoc, List.cons_append]
    · rw [applyAll_concat] at h
      obtain ⟨index, table, rfl, hindex, hlength⟩ :=
        (changed_apply _ change).exists_copy (Nat.not_lt.mp hold) h
      exact ⟨_, _, _, .copied rfl hindex hlength⟩

/-- From its origin on, a table has behind what it had then what was registered in it. It is
read-only exactly if it is a first table that is. -/
theorem Origin.extends {since : List Change} (h : Origin origins changes r source store since)
    (horigins : ∀ table ∈ origins, table.WellFormed) :
    ∃ last, (origins.applyAll changes)[r]? = some last ∧
      source.Extends (store.registered r since) last ∧
        (last.readOnly = true ↔ ∃ first, origins[r]? = some first ∧ first.readOnly = true) := by
  cases h with
  | first hfirst =>
    have hsource := horigins source (List.mem_of_getElem? hfirst)
    obtain ⟨last, hlast, hreadOnly, hextends⟩ :=
      exists_applyAll changes hfirst hsource.extends_refl
    refine ⟨last, hlast, hextends, ?_⟩
    rw [hreadOnly, hfirst]
    simp
  | @copied before after index _ hchanges hindex hlength =>
    -- behind the copy, the last table is the copied one, which is not read-only
    have hsource := wellFormed_applyAll before horigins source (List.mem_of_getElem? hindex)
    have hcopy : (origins.applyAll (before ++ [.copy index]))[r]? =
        some { source with readOnly := false } := by
      rw [applyAll_concat, apply_copy hindex hsource, ← hlength, List.getElem?_concat_length]
    obtain ⟨last, hlast, hreadOnly, hextends⟩ :=
      exists_applyAll since hcopy (hsource.extends_refl.setReadOnly false)
    refine ⟨last, ?_, hextends, ?_⟩
    · rw [hchanges, List.append_cons, applyAll_append, hlast]
    · -- a first table would have been in its place before the copy
      have hnot : ¬∃ first, origins[r]? = some first ∧ first.readOnly = true := by
        rintro ⟨first, hfirst, -⟩
        have hkept := exists_applyAll before hfirst
          (horigins first (List.mem_of_getElem? hfirst)).extends_refl
        obtain ⟨kept, hkept, -⟩ := hkept
        have hlt := (List.getElem?_eq_some_iff.mp hkept).1
        omega
      simp [hreadOnly, hnot]

/-- Every table of a run has its history. -/
theorem recorded (horigins : ∀ table ∈ origins, table.WellFormed)
    (h : (origins.applyAll changes)[r]? = some table) : Recorded origins changes r table := by
  obtain ⟨source, store, since, horigin⟩ :=
    exists_origin changes (List.getElem?_eq_some_iff.mp h).1
  refine ⟨⟨source, store, since, horigin⟩, ?_, ?_, ?_, ?_⟩
  · intro source store since horigin
    -- a table has only one state at the end, whatever origin it is told by
    obtain ⟨last, hlast, hextends, -⟩ := horigin.extends horigins
    obtain rfl := Option.some.inj (h.symm.trans hlast)
    exact hextends
  · intro symbol op
    obtain ⟨last, hlast, -, hreadOnly⟩ := horigin.extends horigins
    obtain rfl := Option.some.inj (h.symm.trans hlast)
    rw [accepts_iff h, ← hreadOnly, Bool.not_eq_true]
  · intro symbol op hrefused
    have herror := perform_register_of_not_accepts h hrefused
    exact ⟨herror, by rw [applyAll_concat]; simp only [apply, herror]⟩
  · -- a copy of a well-formed table has its entries, and is not read-only
    have hwellFormed := wellFormed_applyAll changes horigins table (List.mem_of_getElem? h)
    rw [applyAll_concat, apply_copy h hwellFormed]
    refine ⟨_, rfl, rfl, ?_⟩
    intro symbol op
    rw [accepts_iff List.getElem?_concat_length]
    exact and_iff_left rfl

end Changes

/-! ## First tables -/

/-- A table that a run can start with. -/
inductive Constructed : OperatorTable → Prop where
  /-- The standard table, which is read-only. -/
  | standard : Constructed standard
  /-- A table that is built with operators for some symbols. -/
  | built {entries : List (String × List Operator)} {table : OperatorTable} :
      ofEntries entries = .ok table → Constructed table

/-- A run starts with well-formed tables only. -/
theorem Constructed.wellFormed {table : OperatorTable} (h : Constructed table) :
    table.WellFormed := by
  cases h with
  | standard => exact wellFormed_standard
  | built hbuilt => exact wellFormed_of_ofEntries hbuilt

/-- **Histories.** In a run over any first tables, every table has its history, no character of it
is listed twice or without operators, and its readings fit together. Of the first tables, the
standard one has its eight operators and is read-only; one that is built has what it was built
with and is not read-only. -/
theorem histories :
    (∀ (origins : Store) (changes : List Change), (∀ table ∈ origins, Constructed table) →
      ∀ (r : Nat) (table : OperatorTable), (origins.applyAll changes)[r]? = some table →
        Recorded origins changes r table ∧ table.WellFormed ∧ table.Consistent) ∧
      (empty.Extends [("+", .plus), ("+", .addition), ("-", .minus), ("-", .subtraction),
          ("*", .multiplication), ("/", .division), ("^", .power), ("!", .factorial)] standard ∧
        standard.readOnly = true) ∧
      ∀ (entries : List (String × List Operator)) (table : OperatorTable),
        ofEntries entries = .ok table →
          empty.Extends (entries.flatMap fun (symbol, ops) => ops.map (symbol, ·)) table ∧
            table.readOnly = false := by
  refine ⟨?_, ⟨extends_standard, rfl⟩, ?_⟩
  · intro origins changes hconstructed r table h
    have horigins (first : OperatorTable) (hfirst : first ∈ origins) : first.WellFormed :=
      (hconstructed first hfirst).wellFormed
    have hwellFormed := wellFormed_applyAll changes horigins table (List.mem_of_getElem? h)
    exact ⟨recorded horigins h, hwellFormed, hwellFormed.consistent⟩
  · intro entries table h
    exact extends_of_ofEntries h

/-- A copy of the standard table takes a remainder and the standard table does not, nor does the
copy take a symbol of two characters. -/
theorem histories_percent :
    Recorded [standard]
        [.register 0 "%" .division, .copy 0, .register 1 "%" .division, .copy 1,
          .register 2 "%" .power, .register 1 "**" .power]
        1 ⟨standard.entries ++ [('%', [.division])], false⟩ ∧
      empty.Extends [("~", .factorial), ("~", .minus)] ⟨[('~', [.factorial, .minus])], false⟩ := by
  constructor
  · refine (histories.1 _ _ ?_ _ _ (by decide +kernel)).1
    intro table htable
    obtain rfl := List.mem_singleton.mp htable
    exact .standard
  · exact (histories.2.2 [("**", []), ("~", [.factorial, .minus])] _ (by decide +kernel)).1

end Store

end OperatorTable

end ExprLex
