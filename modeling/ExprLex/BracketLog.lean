import ExprLex.Token

/-!
# Bracket Logs

A log of the brackets of an expression with their positions and the depth after each of them.
Entries are kept newest first, so that the depth of a log is that of its first entry.
-/

namespace ExprLex

/-- A bracket in a log. -/
structure BracketEntry where
  /-- The position of the bracket. -/
  position : Int
  /-- The depth after the bracket. -/
  depth : Int
  /-- The bracket. -/
  bracket : Bracket
  deriving DecidableEq

/-- The brackets read so far. -/
structure BracketLog where
  /-- The entries, the newest first. -/
  newestFirst : List BracketEntry
  deriving DecidableEq

/-- The reasons for which a log has no position of an open bracket. -/
inductive BracketLogError where
  /-- Nothing is open. -/
  | balanced
  /-- No entry has the final depth. -/
  | inconsistent
  deriving DecidableEq

/-- The text of a reason. -/
def BracketLogError.message : BracketLogError → String
  | .balanced => "No unmatched '(' in the bracket log"
  | .inconsistent => "Bracket log is inconsistent"

namespace BracketLog

/-- The log without entries. -/
def empty : BracketLog where
  newestFirst := []

/-- The entries in the order of reading. -/
def entries (log : BracketLog) : List BracketEntry :=
  log.newestFirst.reverse

/-- The number of entries. -/
def size (log : BracketLog) : Nat :=
  log.newestFirst.length

/-- The depth after the newest entry, which is zero at the start. -/
def depth (log : BracketLog) : Int :=
  match log.newestFirst with
  | [] => 0
  | entry :: _ => entry.depth

/-- Records a bracket that leads to the given depth. -/
def record (log : BracketLog) (position depth : Int) (bracket : Bracket) : BracketLog where
  newestFirst := ⟨position, depth, bracket⟩ :: log.newestFirst

/-- Records a bracket that opens a level. -/
def opened (log : BracketLog) (position : Int) (bracket : Bracket) : BracketLog :=
  log.record position (log.depth + 1) bracket

/-- Records a bracket that closes a level. -/
def closed (log : BracketLog) (position : Int) (bracket : Bracket) : BracketLog :=
  log.record position (log.depth - 1) bracket

theorem entries_opened (log : BracketLog) (position : Int) (bracket : Bracket) :
    (log.opened position bracket).entries =
      log.entries ++ [⟨position, log.depth + 1, bracket⟩] :=
  List.reverse_cons

theorem entries_closed (log : BracketLog) (position : Int) (bracket : Bracket) :
    (log.closed position bracket).entries =
      log.entries ++ [⟨position, log.depth - 1, bracket⟩] :=
  List.reverse_cons

/-- The position reported for a bracket that was never closed: the newest entry of those that
have the final depth. -/
def unmatchedOpen (log : BracketLog) : Except BracketLogError Int :=
  if log.depth ≤ 0 then .error .balanced
  else match log.newestFirst.find? (·.depth == log.depth) with
    | some entry => .ok entry.position
    | none => .error .inconsistent

/-- Something is open only if there is an entry. -/
theorem exists_entry_of_depth_pos {log : BracketLog} (h : 0 < log.depth) :
    ∃ entry older, log.newestFirst = entry :: older := by
  cases hlog : log.newestFirst with
  | nil => simp [depth, hlog] at h
  | cons entry older => exact ⟨entry, older, rfl⟩

/-- The bracket that is told as open is the newest one, whichever side it is of. -/
theorem unmatchedOpen_of_depth_pos {log : BracketLog} {entry : BracketEntry}
    {older : List BracketEntry} (h : 0 < log.depth) (hlog : log.newestFirst = entry :: older) :
    log.unmatchedOpen = .ok entry.position := by
  unfold unmatchedOpen
  rw [if_neg (Int.not_le.mpr h)]
  simp [depth, hlog]

/-- While a bracket is open, its position can be told. -/
theorem unmatchedOpen_ne_error {log : BracketLog} (h : 0 < log.depth) (e : BracketLogError) :
    log.unmatchedOpen ≠ .error e := by
  obtain ⟨entry, older, hlog⟩ := exists_entry_of_depth_pos h
  rw [unmatchedOpen_of_depth_pos h hlog]
  exact nofun

/-- The position reported for a bracket that was never closed, in a log where something is open. -/
def openPosition (log : BracketLog) (h : 0 < log.depth) : Int :=
  match hopen : log.unmatchedOpen with
  | .ok position => position
  | .error e => absurd hopen (unmatchedOpen_ne_error h e)

theorem unmatchedOpen_eq_openPosition {log : BracketLog} (h : 0 < log.depth) :
    log.unmatchedOpen = .ok (log.openPosition h) := by
  unfold openPosition
  split
  · assumption
  · rename_i e hopen
    exact absurd hopen (unmatchedOpen_ne_error h e)

/-! ## Histories -/

/-- A change of a log. -/
inductive Change where
  /-- A bracket opens a level. -/
  | opening (position : Int) (bracket : Bracket)
  /-- A bracket closes a level. -/
  | closing (position : Int) (bracket : Bracket)
  /-- All entries are dropped. -/
  | clearing
  deriving DecidableEq

/-- A log after one change. -/
def apply (log : BracketLog) : Change → BracketLog
  | .opening position bracket => log.opened position bracket
  | .closing position bracket => log.closed position bracket
  | .clearing => empty

/-- A log after a sequence of changes. -/
def applyAll (log : BracketLog) (changes : List Change) : BracketLog :=
  changes.foldl apply log

/-- A command to a log: a change, or a question about it. -/
inductive Command where
  /-- The log is changed. -/
  | change (change : Change)
  /-- The depth is asked for. -/
  | depth
  /-- The position of an open bracket is asked for. -/
  | unmatchedOpen
  deriving DecidableEq

/-- What a command answers when it does not fail. -/
inductive Reply where
  /-- The command only changes the log. -/
  | nothing
  /-- The depth that was asked for. -/
  | depth (depth : Int)
  /-- The position of a bracket that is open. -/
  | position (position : Int)
  deriving DecidableEq

/-- What a command answers, and the log behind it. -/
def perform (log : BracketLog) : Command → Except BracketLogError Reply × BracketLog
  | .change change => (.ok .nothing, log.apply change)
  | .depth => (.ok (.depth log.depth), log)
  | .unmatchedOpen => (log.unmatchedOpen.map .position, log)

/-- The log behind a sequence of commands. -/
def after (log : BracketLog) (commands : List Command) : BracketLog :=
  commands.foldl (fun log command => (log.perform command).2) log

end BracketLog

end ExprLex
