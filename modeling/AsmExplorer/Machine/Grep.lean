import AsmExplorer.Machine.Process
import AsmExplorer.Machine.Regex

/-!
# Searching lines

`Grep.tool` prints the lines of a text that an expression matches.
-/

namespace AsmExplorer.Grep

/-- The options of a call. -/
structure Options where
  /-- Whether nothing is printed. -/
  quiet : Bool := false
  /-- Whether the other lines are meant. -/
  inverted : Bool := false
  /-- Whether only the number of lines is printed. -/
  counts : Bool := false
  /-- Whether upper and lower case are the same. -/
  ignoreCase : Bool := false
  /-- Whether lines are printed with their numbers. -/
  numbers : Bool := false
  /-- Whether expressions are extended ones. -/
  extended : Bool := false
  /-- Whether expressions are plain texts. -/
  fixed : Bool := false
  /-- Whether an expression must match the whole line. -/
  wholeLine : Bool := false
  /-- Whether only the matched text is printed. -/
  onlyMatch : Bool := false
  /-- The expressions given by option. -/
  patterns : List String := []
  /-- The other arguments. -/
  operands : List String := []

/-- Takes in a letter of an option. -/
def Options.letter (o : Options) (c : Char) : Options :=
  match c with
  | 'q' => { o with quiet := true }
  | 'v' => { o with inverted := true }
  | 'c' => { o with counts := true }
  | 'i' => { o with ignoreCase := true }
  | 'n' => { o with numbers := true }
  | 'E' => { o with extended := true }
  | 'F' => { o with fixed := true }
  | 'x' => { o with wholeLine := true }
  | 'o' => { o with onlyMatch := true }
  | _ => o

/-- Reads the arguments. -/
def Options.read (o : Options) : List String → Options
  | [] => o
  | "--" :: rest => { o with operands := o.operands ++ rest }
  | "-e" :: s :: rest => read { o with patterns := o.patterns ++ [s] } rest
  | arg :: rest =>
    match arg.toList with
    | '-' :: c :: cs => read ((c :: cs).foldl Options.letter o) rest
    | _ => read { o with operands := o.operands ++ [arg] } rest

/-- An expression that stands for a plain text. -/
def plain (s : List Char) : Regex :=
  s.foldr (fun c r => .seq (.char c) r) .empty

/-- The expression of the patterns. -/
def Options.regex? (o : Options) (patterns : List String) : Option Regex := do
  let rs ← (patterns.flatMap fun s => s.toList.splitOn '\n').mapM fun s =>
    if o.fixed then some (plain s) else Regex.ofChars? o.extended s
  let r ← rs.foldr (fun r more =>
    match more with
    | some m => some (.either r m)
    | none => some r) none
  some (if o.wholeLine then .seq .start (.seq r .finish) else r)

/-- What is printed for a line that was found. -/
def Options.show (o : Options) (label : List Char) (number : Nat) (line : List Char)
    (found : Option Regex.Match) : List Char :=
  let front := label ++ if o.numbers then Text.decimal number ++ [':'] else []
  match found, o.onlyMatch with
  | some m, true => front ++ m.text ++ ['\n']
  | _, _ => front ++ line ++ ['\n']

/-- The search through lines. -/
def tool : Tool := fun p =>
  let o := ({} : Options).read p.args
  let (patterns, operands) :=
    match o.patterns, o.operands with
    | [], pattern :: operands => ([pattern], operands)
    | patterns, operands => (patterns, operands)
  match o.regex? patterns with
  | none => (p.complete false).complain 2 "grep: invalid expression"
  | some r =>
    let operands := if operands.isEmpty then ["-"] else operands
    let (c, any) := operands.foldl
      (fun (c, any) name =>
        match p.operand name with
        | .error fault =>
          (c.complain 2 ("grep: " ++ name ++ ": " ++ fault.plainMessage), any)
        | .ok bytes =>
          let lines := (textLines (Text.decodeLossy bytes)).zipIdx 1
          let found := lines.filterMap fun ((line, _), number) =>
            let m := r.search o.ignoreCase line
            if m.isSome != o.inverted then some (number, line, m) else none
          let label := if operands.length > 1 then name.toList ++ [':'] else []
          let text :=
            if o.quiet then []
            else if o.counts then label ++ Text.decimal found.length ++ ['\n']
            else found.flatMap fun (number, line, m) => o.show label number line m
          (c.say text, any || !found.isEmpty))
      (p.complete (operands.contains "-"), false)
    match c.ending with
    | .exited 0 => { c with ending := .exited (if any then 0 else 1) }
    | _ => if o.quiet && any then { c with ending := .exited 0 } else c

end AsmExplorer.Grep
