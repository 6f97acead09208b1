import ExprLex.Chart.View
import ExprLex.Proofs.Token.Nesting
import Mathlib.Data.Finset.Card
import Mathlib.Data.List.Sort

/-!
# Each Token Has One Point

The points of a view are the tokens in their order, and its groups share them out: a point is in the
group of the kind of its token, unless its index is given as one that was not written. Indices that
are given twice or that have no token make no difference to the points.
-/

namespace ExprLex.Chart

/-! ## Ascending integers without repetitions -/

section Ascending

variable {ns : List Int} {m n : Int}

theorem mem_insertDistinct : m ∈ insertDistinct n ns ↔ m = n ∨ m ∈ ns := by
  fun_induction insertDistinct n ns with
  | case1 => simp
  | case2 k rest hlt => simp
  | case3 rest hlt => simp
  | case4 k rest hlt hne ih => simp only [List.mem_cons, ih, or_left_comm]

theorem mem_sortDistinct : m ∈ sortDistinct ns ↔ m ∈ ns := by
  induction ns with
  | nil => rfl
  | cons n rest ih =>
    rw [sortDistinct, List.foldr_cons, mem_insertDistinct, List.mem_cons]
    exact or_congr_right ih

/-- What is ascending without repetitions stays as it is. -/
theorem sortDistinct_of_pairwise (h : ns.Pairwise (· < ·)) : sortDistinct ns = ns := by
  induction ns with
  | nil => rfl
  | cons n rest ih =>
    have hrest : sortDistinct rest = rest := ih h.of_cons
    rw [sortDistinct, List.foldr_cons]
    show insertDistinct n (sortDistinct rest) = n :: rest
    rw [hrest]
    cases rest with
    | nil => rfl
    | cons m others => exact if_pos (List.rel_of_pairwise_cons h List.mem_cons_self)

theorem pairwise_insertDistinct (h : ns.Pairwise (· < ·)) :
    (insertDistinct n ns).Pairwise (· < ·) := by
  fun_induction insertDistinct n ns with
  | case1 => exact List.pairwise_singleton _ _
  | case2 m rest hlt =>
    refine List.pairwise_cons.mpr ⟨?_, h⟩
    intro k hk
    rcases List.mem_cons.mp hk with rfl | hrest
    · exact hlt
    · exact hlt.trans (List.rel_of_pairwise_cons h hrest)
  | case3 rest hlt => exact h
  | case4 m rest hlt hne ih =>
    refine List.pairwise_cons.mpr ⟨?_, ih h.of_cons⟩
    intro k hk
    rcases mem_insertDistinct.mp hk with rfl | hrest
    · omega
    · exact List.rel_of_pairwise_cons h hrest

theorem pairwise_sortDistinct (ns : List Int) : (sortDistinct ns).Pairwise (· < ·) := by
  induction ns with
  | nil => exact List.Pairwise.nil
  | cons n rest ih => exact pairwise_insertDistinct ih

/-- Integers that are given twice are counted once. -/
theorem length_sortDistinct (ns : List Int) : (sortDistinct ns).length = ns.toFinset.card := by
  have hnodup : (sortDistinct ns).Nodup := (pairwise_sortDistinct ns).imp Int.ne_of_lt
  have hsame : (sortDistinct ns).toFinset = ns.toFinset := by
    ext m
    simp only [List.mem_toFinset, mem_sortDistinct]
  rw [← hsame, List.toFinset_card_of_nodup hnodup]

end Ascending

theorem Group.mem_all (group : Group) : group ∈ all := by
  cases group <;> decide

theorem Group.ofKind_ne_implicit (kind : TokenKind) : ofKind kind ≠ .implicit := by
  cases kind <;> decide

/-! ## All points -/

namespace View

variable {view : View} {group : Group} {p : Point} {i : Nat}

/-- A point stands at the index of a token, at its depth and with its text, in the group of the
token. -/
theorem mem_points : (group, p) ∈ view.points ↔ ∃ token, view.tokens[p.index]? = some token ∧
    view.depths[p.index]? = some p.depth ∧ p.symbol = token.symbol ∧
    group = view.groupOf p.index token := by
  constructor
  · intro h
    obtain ⟨⟨⟨token, depth⟩, index⟩, hentry, heq⟩ := List.mem_map.mp h
    obtain ⟨htoken, hdepth⟩ :=
      List.getElem?_zip_eq_some.mp (List.mem_zipIdx_iff_getElem?.mp hentry)
    cases heq
    exact ⟨token, htoken, hdepth, rfl, rfl⟩
  · rintro ⟨token, htoken, hdepth, hsymbol, rfl⟩
    obtain ⟨index, depth, symbol⟩ := p
    obtain rfl : symbol = token.symbol := hsymbol
    have hentry : ((token, depth), index) ∈ (view.tokens.zip view.depths).zipIdx :=
      List.mem_zipIdx_iff_getElem?.mpr (List.getElem?_zip_eq_some.mpr ⟨htoken, hdepth⟩)
    exact List.mem_map.mpr ⟨_, hentry, rfl⟩

/-- The points have the indices of the tokens, in order. -/
theorem map_index_points (view : View) :
    view.points.map (fun entry => entry.2.index) = List.range view.tokens.length := by
  have hlength : (view.tokens.zip view.depths).length = view.tokens.length := by
    simp [depths]
  calc view.points.map (fun entry => entry.2.index)
    _ = (view.tokens.zip view.depths).zipIdx.map Prod.snd := by
        rw [points, List.map_map]
        rfl
    _ = List.range view.tokens.length := by
        rw [List.zipIdx_map_snd, hlength, List.range_eq_range']

/-! ## The points of a group -/

theorem mem_pointsIn : p ∈ view.pointsIn group ↔ (group, p) ∈ view.points := by
  simp [pointsIn]

/-- The points of a group are in the order of the tokens. -/
theorem ascending_pointsIn (view : View) (group : Group) :
    ((view.pointsIn group).map Point.index).Pairwise (· < ·) := by
  have hsublist := (List.filter_sublist (l := view.points) (p := (·.1 == group))).map fun entry =>
    entry.2.index
  rw [map_index_points] at hsublist
  rw [pointsIn, List.map_map]
  exact List.pairwise_lt_range.sublist hsublist

/-- The groups together have the indices of the tokens and no others. -/
theorem exists_mem_pointsIn_iff :
    (∃ group, ∃ p ∈ view.pointsIn group, p.index = i) ↔ i < view.tokens.length := by
  calc (∃ group, ∃ p ∈ view.pointsIn group, p.index = i)
    _ ↔ i ∈ view.points.map (fun entry => entry.2.index) := by
        simp only [mem_pointsIn, List.mem_map, Prod.exists]
    _ ↔ i < view.tokens.length := by rw [map_index_points, List.mem_range]

/-- Two groups have no index in common. -/
theorem group_eq_of_index_eq {group' : Group} {q : Point} (hp : p ∈ view.pointsIn group)
    (hq : q ∈ view.pointsIn group') (h : p.index = q.index) : group = group' := by
  obtain ⟨token, htoken, -, -, rfl⟩ := mem_points.mp (mem_pointsIn.mp hp)
  obtain ⟨token', htoken', -, -, rfl⟩ := mem_points.mp (mem_pointsIn.mp hq)
  rw [h] at htoken ⊢
  rw [Option.some.inj (htoken.symm.trans htoken')]

/-- No index is in two groups, or twice in one. -/
theorem nodup_indices (view : View) :
    (Group.all.flatMap fun group => (view.pointsIn group).map Point.index).Nodup := by
  refine List.nodup_flatMap.mpr ⟨?_, ?_⟩
  · intro group _
    exact (ascending_pointsIn view group).imp Nat.ne_of_lt
  · have hgroups : Group.all.Nodup := by decide
    refine hgroups.imp ?_
    intro group group' hne i hi hi'
    obtain ⟨p, hp, rfl⟩ := List.mem_map.mp hi
    obtain ⟨q, hq, hindex⟩ := List.mem_map.mp hi'
    exact hne (group_eq_of_index_eq hp hq hindex.symm)

/-- Together the groups have one point for each token. -/
theorem perm_range_groups (view : View) :
    ((view.groups.flatMap Prod.snd).map Point.index).Perm (List.range view.tokens.length) := by
  have hflat : (view.groups.flatMap Prod.snd).map Point.index =
      Group.all.flatMap fun group => (view.pointsIn group).map Point.index := by
    rw [groups, List.flatMap_map, List.map_flatMap]
  rw [hflat]
  refine (List.perm_ext_iff_of_nodup view.nodup_indices List.nodup_range).mpr ?_
  intro i
  rw [List.mem_range, ← exists_mem_pointsIn_iff]
  simp [Group.mem_all]

/-! ## The points of given tokens -/

/-- A view has one point for each of the given tokens, in the group where it belongs when some
indices are given as those of tokens that were not written. -/
structure ShowsEach (view : View) (tokens : List Token) (implicit : List Int) : Prop where
  /-- Together the groups have each index of a token once, and no others. -/
  once : ((view.groups.flatMap Prod.snd).map Point.index).Perm (List.range tokens.length)
  /-- In each group the indices ascend. -/
  ascending : ∀ group, ((view.pointsIn group).map Point.index).Pairwise (· < ·)
  /-- A point has the depth and the text of its token, and its index and the kind of its token say
  what group it is in. -/
  mem_iff : ∀ group p, p ∈ view.pointsIn group ↔ ∃ token, tokens[p.index]? = some token ∧
    (bracketDepths 0 tokens)[p.index]? = some p.depth ∧ p.symbol = token.symbol ∧
    group = if (p.index : Int) ∈ implicit then .implicit else .ofKind token.kind

/-- **Each token has one point.** -/
theorem showsEach_ofTokens (expression : String) (tokens : List Token) (implicit : List Int) :
    (ofTokens expression tokens implicit).ShowsEach tokens implicit where
  once := perm_range_groups _
  ascending := ascending_pointsIn _
  mem_iff group p := by
    have hgroup (token : Token) : (ofTokens expression tokens implicit).groupOf p.index token =
        if (p.index : Int) ∈ implicit then .implicit else .ofKind token.kind := by
      simp [groupOf, ofTokens, mem_sortDistinct]
    rw [mem_pointsIn, mem_points]
    simp only [hgroup]
    rfl

/-! ## The multiplications that were not written -/

/-- Ascending indices are taken over as they are. -/
theorem implicit_ofTokens (expression : String) (tokens : List Token) {implicit : List Nat}
    (hascending : implicit.Pairwise (· < ·)) :
    (ofTokens expression tokens (implicit.map Int.ofNat)).implicit = implicit.map Int.ofNat :=
  sortDistinct_of_pairwise (List.pairwise_map.mpr (hascending.imp Int.ofNat_lt.mpr))

/-- If each index that is given has a token, the last group has the given indices. -/
theorem map_index_implicit (expression : String) {tokens : List Token} {implicit : List Nat}
    (hascending : implicit.Pairwise (· < ·)) (hlt : ∀ i ∈ implicit, i < tokens.length) :
    ((ofTokens expression tokens (implicit.map Int.ofNat)).pointsIn .implicit).map Point.index =
      implicit := by
  have hshows := showsEach_ofTokens expression tokens (implicit.map Int.ofNat)
  have hgiven (i : Nat) : (i : Int) ∈ implicit.map Int.ofNat ↔ i ∈ implicit := by
    simp only [List.mem_map, Int.ofNat_eq_natCast, Int.natCast_inj, exists_eq_right]
  refine (hshows.ascending .implicit).eq_of_mem_iff hascending ?_
  intro i
  constructor
  · intro hi
    obtain ⟨p, hp, rfl⟩ := List.mem_map.mp hi
    obtain ⟨token, -, -, -, hgroup⟩ := (hshows.mem_iff .implicit p).mp hp
    -- a point that is not listed is in the group of its kind, which is another one
    by_contra hnot
    rw [if_neg (mt (hgiven p.index).mp hnot)] at hgroup
    exact Group.ofKind_ne_implicit token.kind hgroup.symm
  · intro hi
    have hi' : i < (ofTokens expression tokens (implicit.map Int.ofNat)).tokens.length := hlt i hi
    obtain ⟨group, p, hp, rfl⟩ := exists_mem_pointsIn_iff.mpr hi'
    obtain ⟨token, -, -, -, rfl⟩ := (hshows.mem_iff group p).mp hp
    rw [if_pos ((hgiven p.index).mpr hi)] at hp
    exact List.mem_map_of_mem hp

end View

end ExprLex.Chart
