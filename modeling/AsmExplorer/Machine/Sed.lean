import AsmExplorer.Machine.Process
import AsmExplorer.Machine.Regex

/-!
# The stream editor

`Sed.tool` edits a text line by line under a script.  The commands are those for substitution,
deletion, printing, transliteration, line numbers and leaving, each of which may be limited to
lines given by numbers or expressions.
-/

namespace AsmExplorer.Sed

/-- Which lines an address names. -/
inductive Address where
  /-- The line with a number. -/
  | line (n : Nat)
  /-- The last line. -/
  | last
  /-- The lines that an expression matches. -/
  | regex (r : Regex)
deriving Inhabited

/-- A part of a replacement. -/
inductive Piece where
  /-- A character. -/
  | char (c : Char)
  /-- What a group matched; group 0 is the whole match. -/
  | group (n : Nat)
deriving Inhabited

/-- A substitution. -/
structure Substitution where
  /-- What is replaced. -/
  pattern : Regex
  /-- What is put in its place. -/
  replacement : List Piece
  /-- The first of the matches that are replaced, counted from 1. -/
  first : Nat
  /-- Whether all later matches are replaced too. -/
  all : Bool
  /-- Whether a changed line is printed. -/
  prints : Bool
  /-- Whether upper and lower case are the same. -/
  ignoreCase : Bool
deriving Inhabited

/-- What a command does. -/
inductive Action where
  /-- Substitutes. -/
  | substitute (s : Substitution)
  /-- Drops the line. -/
  | delete
  /-- Prints the line. -/
  | print
  /-- Prints the number of the line. -/
  | number
  /-- Leaves after this line. -/
  | quit
  /-- Replaces characters one by one. -/
  | translate (pairs : List (Char × Char))
deriving Inhabited

/-- A command. -/
structure Command where
  /-- The line or range that it is limited to. -/
  addresses : Option (Address × Option Address)
  /-- Whether it is for all other lines instead. -/
  negated : Bool
  /-- What it does. -/
  action : Action
deriving Inhabited

/-! ### Scripts -/

/-- The text up to a delimiter, and the rest.  A delimiter after a backslash belongs to the text and
loses its backslash. -/
def delimited? (mark : Char) : List Char → Option (List Char × List Char)
  | [] => none
  | '\\' :: c :: rest =>
    (delimited? mark rest).map fun (s, rest) =>
      (if c = mark then (c :: s, rest) else ('\\' :: c :: s, rest))
  | c :: rest =>
    if c = mark then some ([], rest) else (delimited? mark rest).map fun (s, rest) => (c :: s, rest)

/-- The pieces of a replacement. -/
def pieces : List Char → List Piece
  | [] => []
  | '\\' :: c :: rest =>
    (if c.isDigit then .group (c.toNat - '0'.toNat)
     else if c = 'n' then .char '\n'
     else if c = 't' then .char '\t'
     else .char c) :: pieces rest
  | '&' :: rest => .group 0 :: pieces rest
  | c :: rest => .char c :: pieces rest

/-- Blanks and separators of commands. -/
def isGap (c : Char) : Bool :=
  c == ' ' || c == '\t' || c == '\n' || c == ';'

/-- Reads an address. -/
def address? (extended : Bool) (s : List Char) : Option (Address × List Char) :=
  match s with
  | '$' :: rest => some (.last, rest)
  | '/' :: rest => do
    let (text, rest) ← delimited? '/' rest
    some (.regex (← Regex.ofChars? extended text), rest)
  | s =>
    (Text.nat? (s.takeWhile Char.isDigit)).map fun n => (.line n, s.dropWhile Char.isDigit)

/-- Reads a substitution after its letter. -/
def substitution? (extended : Bool) : List Char → Option (Substitution × List Char)
  | [] => none
  | mark :: rest => do
    let (pattern, rest) ← delimited? mark rest
    let (replacement, rest) ← delimited? mark rest
    let isFlag (c : Char) : Bool := c.isDigit || c == 'g' || c == 'p' || c == 'i' || c == 'I'
    let flags := rest.takeWhile isFlag
    some
      ({ pattern := ← Regex.ofChars? extended pattern, replacement := pieces replacement
         first := (Text.nat? (flags.filter Char.isDigit)).getD 1, all := flags.contains 'g'
         prints := flags.contains 'p', ignoreCase := flags.contains 'i' || flags.contains 'I' },
        rest.dropWhile isFlag)

/-- Reads what a command does. -/
def action? (extended : Bool) (s : List Char) : Option (Action × List Char) :=
  match s with
  | 's' :: rest => (substitution? extended rest).map fun (a, rest) => (.substitute a, rest)
  | 'y' :: mark :: rest => do
    let (old, rest) ← delimited? mark rest
    let (new, rest) ← delimited? mark rest
    if old.length = new.length then some (.translate (old.zip new), rest) else none
  | 'd' :: rest => some (.delete, rest)
  | 'p' :: rest => some (.print, rest)
  | '=' :: rest => some (.number, rest)
  | 'q' :: rest => some (.quit, rest)
  | _ => none

/-- Reads a script.  Every command takes a character, so `fuel` is the length of the script. -/
def commands? (extended : Bool) : (fuel : Nat) → List Char → Option (List Command)
  | 0, s => if (s.dropWhile isGap).isEmpty then some [] else none
  | fuel + 1, s =>
    match s.dropWhile isGap with
    | [] => some []
    | s => do
      let (addresses, s) ←
        match address? extended s with
        | none => some (none, s)
        | some (a, ',' :: rest) =>
          (address? extended rest).map fun (b, rest) => (some (a, some b), rest)
        | some (a, rest) => some (some (a, none), rest)
      let s := s.dropWhile (· == ' ')
      let (negated, s) :=
        match s with
        | '!' :: rest => (true, rest.dropWhile (· == ' '))
        | s => (false, s)
      let (action, rest) ← action? extended s
      let more ← commands? extended fuel rest
      some ({ addresses, negated, action } :: more)

/-! ### Editing -/

/-- A line that is edited. -/
structure Line where
  /-- Its number, counted from 1. -/
  number : Nat
  /-- Whether it is the last one. -/
  isLast : Bool
  /-- Its text. -/
  text : List Char
  /-- Whether a line end follows. -/
  ended : Bool

/-- The text that takes the place of a match. -/
def Substitution.text (s : Substitution) (m : Regex.Match) : List Char :=
  s.replacement.flatMap fun
    | .char c => [c]
    | .group 0 => m.text
    | .group n => (m.groups.lookup n).getD []

/-- Replaces the matches from a position on; `count` is the number of the next match. -/
def Substitution.run (s : Substitution) : (fuel : Nat) → (count position : Nat) → List Char →
    List Char × Bool
  | 0, _, position, text => (text.drop position, false)
  | fuel + 1, count, position, text =>
    match Regex.searchFrom s.ignoreCase s.pattern text position with
    | none => (text.drop position, false)
    | some m =>
      let chosen := count == s.first || (s.all && count ≥ s.first)
      let put := if chosen then s.text m else m.text
      let kept := m.before.drop position
      if chosen && !s.all then (kept ++ put ++ m.after, true)
      else
        let next := m.before.length + m.text.length
        if m.text.isEmpty then
          let (rest, changed) := run s fuel (count + 1) (next + 1) text
          (kept ++ put ++ (text.drop next).take 1 ++ rest, chosen || changed)
        else
          let (rest, changed) := run s fuel (count + 1) next text
          (kept ++ put ++ rest, chosen || changed)

/-- Whether an address names a line. -/
def Address.names (a : Address) (l : Line) : Bool :=
  match a with
  | line n => l.number == n
  | last => l.isLast
  | regex r => (r.search false l.text).isSome

/-- Whether a command is for a line; the flag tells whether the line is within its range, and is
carried to the next line. -/
def Command.covers (c : Command) (inside : Bool) (l : Line) : Bool × Bool :=
  let (covered, inside) :=
    match c.addresses with
    | none => (true, false)
    | some (a, none) => (a.names l, false)
    | some (a, some b) =>
      if inside then (true, !b.names l)
      else if a.names l then
        let single :=
          match b with
          | .line n => n ≤ l.number
          | _ => false
        (true, !single)
      else (false, false)
  (covered != c.negated, inside)

/-- What is known while a line is edited. -/
structure Editing where
  /-- The line. -/
  line : Line
  /-- What was printed. -/
  printed : List Char := []
  /-- Whether the line was dropped. -/
  deleted : Bool := false
  /-- Whether this is the last line to be read. -/
  quits : Bool := false

/-- A text and its line end. -/
def withEnd (text : List Char) (ended : Bool) : List Char :=
  if ended then text ++ ['\n'] else text

/-- Carries out what a command does. -/
def Action.run (e : Editing) : Action → Editing
  | substitute s =>
    let (text, changed) := s.run (e.line.text.length + 2) 1 0 e.line.text
    let line := { e.line with text }
    if changed then
      { e with
        line, printed := e.printed ++ if s.prints then withEnd text line.ended else [] }
    else e
  | delete => { e with deleted := true }
  | print => { e with printed := e.printed ++ withEnd e.line.text e.line.ended }
  | number => { e with printed := e.printed ++ Text.decimal e.line.number ++ ['\n'] }
  | quit => { e with quits := true }
  | translate pairs =>
    { e with line := { e.line with text := e.line.text.map fun c => (pairs.lookup c).getD c } }

/-- Carries out the commands on a line; each comes with the flag of its range. -/
def runLine (commands : List (Command × Bool)) (l : Line) : Editing × List (Command × Bool) :=
  commands.foldl
    (fun (e, done) (c, inside) =>
      if e.deleted || e.quits then (e, done ++ [(c, inside)])
      else
        let (covered, inside) := c.covers inside e.line
        (if covered then c.action.run e else e, done ++ [(c, inside)]))
    ({ line := l }, [])

/-- Edits the lines; `quiet` leaves out what no command prints. -/
def edit (quiet : Bool) : List (Command × Bool) → List Line → List Char
  | _, [] => []
  | commands, l :: rest =>
    let (e, commands) := runLine commands l
    let shown := if quiet || e.deleted then [] else withEnd e.line.text e.line.ended
    e.printed ++ shown ++ if e.quits then [] else edit quiet commands rest

/-- Numbers the lines of a text. -/
def numbered (lines : List (List Char × Bool)) : List Line :=
  (lines.zipIdx 1).map fun ((text, ended), number) =>
    { number, isLast := number == lines.length, text, ended }

/-! ### The program -/

/-- The options of a call: whether to be quiet, the kind of expressions, the scripts, and the
operands. -/
structure Options where
  /-- Whether only commands print. -/
  quiet : Bool := false
  /-- Whether expressions are extended ones. -/
  extended : Bool := false
  /-- The scripts given by option. -/
  scripts : List String := []
  /-- The other arguments. -/
  operands : List String := []

/-- Reads the arguments. -/
def Options.read (o : Options) : List String → Options
  | [] => o
  | "-n" :: rest => read { o with quiet := true } rest
  | "-E" :: rest => read { o with extended := true } rest
  | "-r" :: rest => read { o with extended := true } rest
  | "-ne" :: s :: rest => read { o with quiet := true, scripts := o.scripts ++ [s] } rest
  | "-e" :: s :: rest => read { o with scripts := o.scripts ++ [s] } rest
  | "--" :: rest => { o with operands := o.operands ++ rest }
  | arg :: rest => read { o with operands := o.operands ++ [arg] } rest

/-- The stream editor. -/
def tool : Tool := fun p =>
  let o := ({} : Options).read p.args
  let (scripts, operands) :=
    match o.scripts, o.operands with
    | [], script :: operands => ([script], operands)
    | scripts, operands => (scripts, operands)
  if scripts.isEmpty then (p.complete false).complain 1 "sed: no script specified"
  else
    let script := ("\n".intercalate scripts).toList
    match commands? o.extended script.length script with
    | none =>
      (p.complete false).complain 1 ("sed: -e expression #1, char 0: unknown command")
    | some commands =>
      let operands := if operands.isEmpty then ["-"] else operands
      let (c, lines) := operands.foldl
        (fun (c, lines) name =>
          match p.operand name with
          | .ok bytes =>
            let ended := lines.map fun ((text, _) : List Char × Bool) => (text, true)
            (c, ended ++ textLines (Text.decodeLossy bytes))
          | .error .isADirectory =>
            (c.complain 2 ("sed: read error on " ++ name ++ ": Is a directory"), lines)
          | .error fault =>
            (c.complain 2 ("sed: can't read " ++ name ++ ": " ++ fault.plainMessage), lines))
        (p.complete (operands.contains "-"), [])
      c.say (edit o.quiet (commands.map (·, false)) (numbered lines))

end AsmExplorer.Sed
