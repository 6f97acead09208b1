import ExprLex.Chart.Figure
import ExprLex.Proofs.Chart.Points
import ExprLex.Proofs.Tokenization.Faithful
import ExprLex.Proofs.Tokenization.Juxtaposition
import Mathlib.Data.List.Forall2

/-!
# A Figure Shows Each Token Once

A figure is drawn by adding a line of depths, then one row of markers for each group that has
points, and by setting up the layout with the title. What is shown is read off the arguments of
these calls, and off the figure itself if its library keeps traces in order. The title counts the
tokens and the indices that were given. When the expression is tokenized for the figure, the points
of the last group are the multiplications that were inserted, and they are as many as the title
says.
-/

namespace ExprLex

namespace Attribute

/-! ## What arguments show -/

/-- The attribute with a name. -/
def field? (name : String) : Attribute → Option Attribute
  | .record fields => fields.lookup name
  | _ => none

/-- A trace is a line over all tokens at their depths. -/
structure IsDepthLine (trace : Attribute) (tokens : List Token) : Prop where
  mode : trace.field? "mode" = some (.text "lines")
  x : trace.field? "x" = some (.integers ((List.range tokens.length).map Int.ofNat))
  y : trace.field? "y" = some (.integers (bracketDepths 0 tokens))

/-- A trace has the points of a group as markers with their texts. -/
structure IsMarkers (trace : Attribute) (group : Chart.Group) (points : List Chart.Point) :
    Prop where
  mode : trace.field? "mode" = some (.text "markers+text")
  name : trace.field? "name" = some (.text group.legend)
  x : trace.field? "x" = some (.integers (points.map fun p => (p.index : Int)))
  y : trace.field? "y" = some (.integers (points.map Chart.Point.depth))
  text : trace.field? "text" = some (.texts (points.map Chart.Point.symbol))

/-- The text of an attribute that is one. -/
def text? : Attribute → Option String
  | .text value => some value
  | _ => none

/-- The text of the title in a layout. -/
def title? (layout : Attribute) : Option String :=
  ((layout.field? "title").bind (field? "text")).bind text?

end Attribute

namespace Chart

/-- The title that tells an expression, and below it how many tokens and how many multiplications
that were not written there are, and how deep the brackets go. -/
def titleFor (settings : ChartSettings) (expression : String) (tokens implicit : Nat)
    (depth : Int) : String :=
  settings.heading ++ expression ++ "<br><sup>Tokens: " ++ toString tokens ++
    " | Implicit multiplications: " ++ toString implicit ++ " | Max depth: " ++ toString depth ++
      "</sup>"

/-- The traces for a view are the line of depths over its tokens, and behind it one row of markers
for each group that has points. -/
def AreTraces (traces : List Attribute) (view : View) : Prop :=
  ∃ line rows, traces = line :: rows ∧ line.IsDepthLine view.tokens ∧
    List.Forall₂ (fun group row => row.IsMarkers group (view.pointsIn group))
      ([.number, .operator, .bracket, .implicit].filter fun group =>
        !(view.pointsIn group).isEmpty) rows

/-- The calls add the traces for a view and then set up a layout with a title. -/
def Draws (calls : List Call) (view : View) (title : String) : Prop :=
  ∃ traces layout, calls = traces.map .addScatter ++ [.updateLayout layout] ∧
    AreTraces traces view ∧ layout.title? = some title

/-- What can be read off the figures of a library: the traces in the order in which they were added,
and the title that was set up last. -/
structure Library.Reading {φ : Type} (library : Library φ) where
  /-- The traces of a figure. -/
  traces : φ → List Attribute
  /-- The title of a figure, if it has one. -/
  title? : φ → Option String
  /-- A blank figure has none. -/
  traces_blank : traces library.blank = []
  /-- A trace that is added comes behind the others. -/
  traces_addScatter : ∀ figure trace,
    traces (library.perform figure (.addScatter trace)) = traces figure ++ [trace]
  /-- The layout leaves the traces as they are. -/
  traces_updateLayout : ∀ figure layout,
    traces (library.perform figure (.updateLayout layout)) = traces figure
  /-- The title of a layout becomes that of the figure. -/
  title_updateLayout : ∀ figure layout text, layout.title? = some text →
    title? (library.perform figure (.updateLayout layout)) = some text

/-- A figure has the traces for a view and a title. -/
def Library.Reading.Shows {φ : Type} {library : Library φ} (reading : library.Reading) (figure : φ)
    (view : View) (title : String) : Prop :=
  AreTraces (reading.traces figure) view ∧ reading.title? figure = some title

/-- A view is drawn with a title: by the calls that are made, and so in the figures of every library
that can be read. -/
structure View.DrawnWith (view : View) (settings : ChartSettings) (title : String) : Prop where
  calls : Draws (view.calls settings) view title
  figure : ∀ {φ : Type} (library : Library φ) (reading : library.Reading),
    reading.Shows (view.figure library settings) view title

/-- A library whose figures are nothing but their traces and their titles. -/
def Library.plain : Library (List Attribute × Option String) where
  blank := ([], none)
  perform := fun figure call =>
    match call with
    | .addScatter trace => (figure.1 ++ [trace], figure.2)
    | .updateLayout layout => (figure.1, layout.title?)

/-- Plain figures are read off as they are. -/
def Library.plainReading : plain.Reading where
  traces := Prod.fst
  title? := Prod.snd
  traces_blank := rfl
  traces_addScatter _ _ := rfl
  traces_updateLayout _ _ := rfl
  title_updateLayout _ _ _ h := h

/-! ## The calls for a view -/

theorem View.isDepthLine_depthLine (view : View) (settings : ChartSettings) :
    (view.depthLine settings).IsDepthLine view.tokens := by
  constructor <;> rfl

theorem Group.isMarkers_markers (group : Group) (settings : ChartSettings) (points : List Point) :
    (group.markers settings points).IsMarkers group points := by
  constructor <;> rfl

/-- The title tells the expression of the view, its tokens and the indices it was given. -/
theorem View.title_eq (view : View) (settings : ChartSettings) :
    view.title settings =
      titleFor settings view.expression view.tokens.length view.implicit.length
        ((bracketDepths 0 view.tokens).max?.getD 0) := by
  simp only [title, titleFor, ChartSettings.title, String.append_assoc]
  rfl

theorem View.title?_layout (view : View) (settings : ChartSettings) :
    (view.layout settings).title? = some (view.title settings) := rfl

/-- The rows of markers are for the groups that have points, in order. -/
theorem View.shownGroups_eq (view : View) :
    view.shownGroups =
      (Group.all.filter fun group => !(view.pointsIn group).isEmpty).map fun group =>
        (group, view.pointsIn group) := by
  rw [shownGroups, groups, List.filter_map]
  rfl

/-- The rows of markers follow the groups that have points. -/
theorem View.areTraces (view : View) (settings : ChartSettings) :
    AreTraces (view.depthLine settings ::
      view.shownGroups.map fun shown => shown.1.markers settings shown.2) view := by
  refine ⟨_, _, rfl, view.isDepthLine_depthLine settings, ?_⟩
  rw [view.shownGroups_eq, List.map_map]
  refine List.forall₂_map_right_iff.mpr (List.forall₂_same.mpr ?_)
  intro group _
  exact group.isMarkers_markers settings (view.pointsIn group)

/-- The calls for a view draw its line, its groups and its title. -/
theorem View.draws_calls (view : View) (settings : ChartSettings) :
    Draws (view.calls settings) view (view.title settings) := by
  refine ⟨_, view.layout settings, ?_, view.areTraces settings, view.title?_layout settings⟩
  rw [List.map_cons, List.map_map]
  rfl

/-! ## The figure of a view -/

section Figures

variable {φ : Type} {library : Library φ} {calls : List Call} {view : View} {title : String}

/-- Traces come behind those that a figure has, in the order in which they are added. -/
theorem Library.Reading.traces_foldl (reading : library.Reading) (added : List Attribute)
    (figure : φ) :
    reading.traces ((added.map Call.addScatter).foldl library.perform figure) =
      reading.traces figure ++ added := by
  induction added generalizing figure with
  | nil => rw [List.append_nil]; rfl
  | cons trace rest ih =>
    rw [List.map_cons, List.foldl_cons, ih, reading.traces_addScatter, ← List.append_cons]

/-- What is drawn by calls is what the figure has. -/
theorem Draws.shows (h : Draws calls view title) (reading : library.Reading) :
    reading.Shows (library.draw calls) view title := by
  obtain ⟨traces, layout, rfl, htraces, htitle⟩ := h
  have hadded : reading.traces ((traces.map Call.addScatter).foldl library.perform library.blank) =
      traces := by
    rw [reading.traces_foldl, reading.traces_blank, List.nil_append]
  rw [Library.draw, List.foldl_append]
  refine ⟨?_, reading.title_updateLayout _ layout title htitle⟩
  rw [← hadded] at htraces
  rwa [← reading.traces_updateLayout _ layout] at htraces

/-- A view is drawn with the title that tells its expression, its tokens and the indices it was
given. -/
theorem View.drawnWith (view : View) (settings : ChartSettings) :
    view.DrawnWith settings (titleFor settings view.expression view.tokens.length
      view.implicit.length ((bracketDepths 0 view.tokens).max?.getD 0)) := by
  rw [← view.title_eq settings]
  exact ⟨view.draws_calls settings, fun _ reading => (view.draws_calls settings).shows reading⟩

end Figures

/-! ## Figures of expressions -/

/-- The view of an expression alone shows the tokens that the expression is read as. -/
theorem View.of_none_eq_ok_iff {expression : String} {given : List Int} {view : View} :
    View.of expression none given = .ok view ↔ ∃ t, tokenize .standard expression = .ok t ∧
      view = ofTokens expression t.tokens (t.implicit.map Int.ofNat) := by
  rw [View.of]
  cases tokenize .standard expression with
  | ok t => simp [Except.map, eq_comm]
  | error e => simp [Except.map]

/-- There is one lexeme for each token that was written. -/
theorem length_lexemes {expression : String} {t : Tokenization}
    (h : tokenize .standard expression = .ok t) :
    (Text.lexemes (expression.toList.filter fun c => !Text.isBlank c)).length =
      t.explicit.length := by
  obtain ⟨s, hfeed, -, rfl⟩ := tokenize_eq_ok_iff_draft.mp h
  have hs := Scanner.traced_of_feed (Scanner.traced_opening expression) hfeed
  rw [← OperatorTable.visible_standard, ← symbols_of_tokensOf?_standard hs.tokensOf?,
    List.length_map]

/-- **A figure shows each token once.** Whatever tokens and indices are given, there is one point
for each token, in the group where it belongs. The figure has the line of depths, the points of each
group, and a title that counts the tokens and the different indices. If the expression is tokenized
for the figure, the points of the last group are multiplications, and the title counts them: there
are as many as there are more tokens than lexemes. -/
theorem figure_shows_each :
    (∀ (expression : String) (tokens : List Token) (implicit : List Int),
      ∃ view, View.of expression (some tokens) implicit = .ok view ∧ view.tokens = tokens ∧
        view.ShowsEach tokens implicit ∧
        ∀ settings, view.DrawnWith settings
          (titleFor settings expression tokens.length implicit.toFinset.card
            ((bracketDepths 0 tokens).max?.getD 0))) ∧
      ∀ {expression : String} {given : List Int} {view : View},
        View.of expression none given = .ok view →
          ∃ t, tokenize .standard expression = .ok t ∧ view.tokens = t.tokens ∧
            view.ShowsEach t.tokens (t.implicit.map Int.ofNat) ∧
            (∀ settings, view.DrawnWith settings
              (titleFor settings expression t.tokens.length (view.pointsIn .implicit).length
                ((bracketDepths 0 t.tokens).max?.getD 0))) ∧
            (∀ p ∈ view.pointsIn .implicit, p.symbol = "*") ∧
            t.tokens.length = (view.pointsIn .implicit).length +
              (Text.lexemes (expression.toList.filter fun c => !Text.isBlank c)).length := by
  refine ⟨?_, ?_⟩
  · intro expression tokens implicit
    refine ⟨_, rfl, rfl, View.showsEach_ofTokens expression tokens implicit, ?_⟩
    intro settings
    rw [← length_sortDistinct]
    exact (View.ofTokens expression tokens implicit).drawnWith settings
  · intro expression given view h
    obtain ⟨t, ht, rfl⟩ := View.of_none_eq_ok_iff.mp h
    have hmultiplied := multiplied_of_tokenize ht
    have hshows := View.showsEach_ofTokens expression t.tokens (t.implicit.map Int.ofNat)
    have hindices := View.map_index_implicit expression hmultiplied.increasing hmultiplied.lt_length
    -- the points of the last group have the indices that the tokenizer lists
    have hpoints : ((View.ofTokens expression t.tokens (t.implicit.map Int.ofNat)).pointsIn
        .implicit).length = t.implicit.length := by
      rw [← List.length_map Point.index, hindices]
    refine ⟨t, ht, rfl, hshows, ?_, ?_, ?_⟩
    · intro settings
      have hdrawn := (View.ofTokens expression t.tokens (t.implicit.map Int.ofNat)).drawnWith
        settings
      rw [View.implicit_ofTokens expression t.tokens hmultiplied.increasing, List.length_map]
        at hdrawn
      rwa [hpoints]
    · intro p hp
      -- each of them is a multiplication, since only those are inserted
      have hmem : p.index ∈ t.implicit := hindices ▸ List.mem_map_of_mem hp
      obtain ⟨-, hproduct, -⟩ := hmultiplied.juxtaposed p.index hmem
      obtain ⟨token, htoken, -, hsymbol, -⟩ := (hshows.mem_iff .implicit p).mp hp
      rw [hsymbol, Option.some.inj (htoken.symm.trans hproduct)]
      rfl
    · rw [length_lexemes ht, hmultiplied.length_tokens, hpoints]

/-- Of the seven tokens of `2 (3)4`, two are multiplications that were not written, whatever index
is given along with the expression, and so it says in the title. -/
theorem figure_shows_each_two_three_four :
    ∃ view, View.of "2 (3)4" none [-1] = .ok view ∧
      (∀ p ∈ view.pointsIn .implicit, p.symbol = "*") ∧
      (view.pointsIn .implicit).length = 2 ∧ view.tokens.length = 2 + 5 ∧
      Library.plainReading.Shows (view.figure .plain Settings.standard.chart) view
        ("Token stream for: 2 (3)4<br><sup>Tokens: 7 | " ++
          "Implicit multiplications: 2 | Max depth: 1</sup>") := by
  have hview : View.of "2 (3)4" none [-1] = .ok (.ofTokens "2 (3)4" [.number "2",
      .operator .multiplication, .bracket .left, .number "3", .bracket .right,
      .operator .multiplication, .number "4"] [1, 5]) := by
    rfl
  obtain ⟨t, -, htokens, -, hdrawn, hproducts, -⟩ := figure_shows_each.2 hview
  have htitle : titleFor Settings.standard.chart "2 (3)4" 7 2 1 =
      "Token stream for: 2 (3)4<br><sup>Tokens: 7 | " ++
        "Implicit multiplications: 2 | Max depth: 1</sup>" := by
    decide +kernel
  refine ⟨_, hview, hproducts, rfl, rfl, ?_⟩
  rw [← htitle]
  rw [← htokens] at hdrawn
  exact (hdrawn Settings.standard.chart).figure .plain Library.plainReading

end Chart

end ExprLex
