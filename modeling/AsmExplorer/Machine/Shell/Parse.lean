import AsmExplorer.Machine.Shell.Syntax

/-!
# Reading shell scripts

`Shell.parse?` reads a script.  The functions below take the text that is left and give what they
read with the rest; each call takes one unit of `fuel`, of which a script gets enough for several
calls per character.
-/

namespace AsmExplorer.Shell

/-! ### Characters -/

/-- Characters of names. -/
def isNameChar (c : Char) : Bool :=
  c.isAlphanum || c == '_'

/-- Characters that end a word. -/
def endsWord (c : Char) : Bool :=
  " \t\n;&|<>()".toList.contains c

/-- Passes over blanks, joined lines and a comment. -/
def skipBlanks : List Char → List Char
  | ' ' :: rest => skipBlanks rest
  | '\t' :: rest => skipBlanks rest
  | '\\' :: '\n' :: rest => skipBlanks rest
  | '#' :: rest => rest.dropWhile (· != '\n')
  | s => s

/-- Passes over blanks, comments and line ends. -/
def skipLines : (fuel : Nat) → List Char → List Char
  | 0, s => s
  | fuel + 1, s =>
    match skipBlanks s with
    | '\n' :: rest => skipLines fuel rest
    | rest => rest

/-- The text up to the parenthesis that closes, and the rest.  Quotes are passed over as wholes;
`quote` is the quote that is open, and `escaped` is set behind a backslash. -/
def closing? : (depth : Nat) → (quote : Option Char) → (escaped : Bool) → List Char →
    Option (List Char × List Char)
  | _, _, _, [] => none
  | depth, quote, escaped, c :: rest =>
    let go (depth : Nat) (quote : Option Char) (escaped : Bool) : Option (List Char × List Char) :=
      (closing? depth quote escaped rest).map fun (s, after) => (c :: s, after)
    if escaped then go depth quote false
    else if c = '\\' then go depth quote (quote != some '\'')
    else
      match quote with
      | some q => go depth (if c = q then none else some q) false
      | none =>
        if c = '\'' ∨ c = '"' then go depth (some c) false
        else if c = '(' then go (depth + 1) none false
        else if c = ')' then if depth = 0 then some ([], rest) else go (depth - 1) none false
        else go depth none false

/-- The text up to a backquote, and the rest. -/
def backquoted? : List Char → Option (List Char × List Char)
  | [] => none
  | '\\' :: c :: rest =>
    (backquoted? rest).map fun (s, after) =>
      (if c = '\x60' ∨ c = '\\' ∨ c = '$' then (c :: s, after) else ('\\' :: c :: s, after))
  | '\x60' :: rest => some ([], rest)
  | c :: rest => (backquoted? rest).map fun (s, after) => (c :: s, after)

/-! ### Words -/

/-- Where a word stands, which decides what ends it and what a backslash does. -/
inductive Place where
  /-- Outside quotes. -/
  | bare
  /-- Between double quotes. -/
  | quoted
  /-- In the braces of a parameter, perhaps between double quotes. -/
  | braces (quoted : Bool)
  /-- In a text of the script that is read as input. -/
  | here
deriving DecidableEq

/-- Whether parts of this place are quoted. -/
def Place.isQuoted : Place → Bool
  | bare => false
  | quoted => true
  | braces q => q
  | here => true

/-- Whether a backslash before a character takes its meaning away. -/
def Place.escapes (p : Place) (c : Char) : Bool :=
  match p with
  | bare => true
  | quoted => "$\x60\"\\\n".toList.contains c
  | braces true => "$\x60\"\\\n\x7d".toList.contains c
  | braces false => true
  | here => "$\x60\\\n".toList.contains c

/-- Puts a character before the parts of a word. -/
def addChar (quoted : Bool) (c : Char) : Word → Word
  | .text q s :: parts =>
    if q = quoted then .text q (c :: s) :: parts else .text quoted [c] :: .text q s :: parts
  | parts => .text quoted [c] :: parts

/-- The name of a parameter: a name, digits, or one sign. -/
def paramName? (braces : Bool) (s : List Char) : Option (String × List Char) :=
  match s with
  | [] => none
  | c :: rest =>
    if c.isDigit then
      let digits := if braces then s.takeWhile Char.isDigit else [c]
      some (String.ofList digits, s.drop digits.length)
    else if isNameChar c then
      some (String.ofList (s.takeWhile isNameChar), s.dropWhile isNameChar)
    else if "@*#?$!-".toList.contains c then some (String.ofList [c], rest)
    else none

/-- What becomes of a parameter, as the signs after its name tell. -/
def paramUse? : List Char → Option (ParamUse × List Char)
  | '#' :: '#' :: rest => some (.dropStart true, rest)
  | '#' :: rest => some (.dropStart false, rest)
  | '%' :: '%' :: rest => some (.dropEnd true, rest)
  | '%' :: rest => some (.dropEnd false, rest)
  | ':' :: '-' :: rest => some (.orElse true, rest)
  | ':' :: '=' :: rest => some (.orStore true, rest)
  | ':' :: '+' :: rest => some (.ifSet true, rest)
  | ':' :: '?' :: rest => some (.orFail true, rest)
  | '-' :: rest => some (.orElse false, rest)
  | '=' :: rest => some (.orStore false, rest)
  | '+' :: rest => some (.ifSet false, rest)
  | '?' :: rest => some (.orFail false, rest)
  | _ => none

mutual

/-- The parts of a word from here on. -/
def parts? (fuel : Nat) (place : Place) (s : List Char) : Option (Word × List Char) :=
  match fuel with
  | 0 => none
  | fuel + 1 =>
    let quoted := place.isQuoted
    let char (c : Char) (rest : List Char) :=
      (parts? fuel place rest).map fun (w, rest) => (addChar quoted c w, rest)
    match s with
    | [] => if place = .bare ∨ place = .here then some ([], []) else none
    | '\\' :: '\n' :: rest => parts? fuel place rest
    | '\\' :: c :: rest =>
      if place.escapes c then
        (parts? fuel place rest).map fun (w, rest) => (addChar true c w, rest)
      else
        (parts? fuel place (c :: rest)).map fun (w, rest) => (addChar quoted '\\' w, rest)
    | '$' :: rest => do
      match ← dollar? fuel quoted rest with
      | (some part, rest) => (parts? fuel place rest).map fun (w, rest) => (part :: w, rest)
      | (none, rest) => char '$' rest
    | '\x60' :: rest => do
      let (script, rest) ← backquoted? rest
      (parts? fuel place rest).map fun (w, rest) => (.output quoted script :: w, rest)
    | c :: rest =>
      match place with
      | .quoted => if c = '"' then some ([], rest) else char c rest
      | .here => char c rest
      | place =>
        if place = .bare ∧ endsWord c then some ([], c :: rest)
        else if place ≠ .bare ∧ c = '\x7d' then some ([], rest)
        else if c = '\'' ∧ !quoted then do
          let (inside, rest) ← Text.splitFirst '\'' rest
          (parts? fuel place rest).map fun (w, rest) => (.text true inside :: w, rest)
        else if c = '"' then do
          let (inside, rest) ← parts? fuel .quoted rest
          let inside := if inside.isEmpty then [.text true []] else inside
          (parts? fuel place rest).map fun (w, rest) => (inside ++ w, rest)
        else char c rest

/-- What stands after a dollar sign; none if the sign stands for itself. -/
def dollar? (fuel : Nat) (quoted : Bool) (s : List Char) : Option (Option WordPart × List Char) :=
  match fuel with
  | 0 => none
  | fuel + 1 =>
    match s with
    | '(' :: '(' :: rest => do
      let (inside, rest) ← closing? 1 none false rest
      match inside.reverse with
      | ')' :: expression =>
        let (parts, _) ← parts? fuel .here expression.reverse
        some (some (.sum quoted parts), rest)
      | _ => none
    | '(' :: rest => do
      let (script, rest) ← closing? 0 none false rest
      some (some (.output quoted script), rest)
    | '\x7b' :: '#' :: '\x7d' :: rest => some (some (.param quoted "#" .value []), rest)
    | '\x7b' :: '#' :: rest => do
      let (name, rest) ← paramName? true rest
      match rest with
      | '\x7d' :: rest => some (some (.param quoted name .length []), rest)
      | _ => none
    | '\x7b' :: rest => do
      let (name, rest) ← paramName? true rest
      match rest with
      | '\x7d' :: rest => some (some (.param quoted name .value []), rest)
      | rest =>
        let (use, rest) ← paramUse? rest
        let (word, rest) ← parts? fuel (.braces (quoted && !use.isPattern)) rest
        some (some (.param quoted name use word), rest)
    | s =>
      match paramName? false s with
      | some (name, rest) => some (some (.param quoted name .value []), rest)
      | none => some (none, s)

end

/-- A word that is not empty. -/
def word? (fuel : Nat) (s : List Char) : Option (Word × List Char) := do
  match s with
  | c :: _ => if endsWord c then none else parts? fuel .bare s
  | [] => none

/-! ### Redirections -/

/-- The lines of a text of the script up to its mark, and the rest. -/
def hereText (mark : List Char) (stripTabs : Bool) :
    (fuel : Nat) → List Char → List Char × List Char
  | 0, s => (s, [])
  | fuel + 1, s =>
    if s.isEmpty then ([], [])
    else
      let line := s.takeWhile (· != '\n')
      let rest := s.drop (line.length + 1)
      let line := if stripTabs then line.dropWhile (· == '\t') else line
      if line = mark then ([], rest)
      else
        let (more, rest) := hereText mark stripTabs fuel rest
        (line ++ '\n' :: more, rest)

/-- The characters of a word without its quotes, and whether there were any. -/
def plainWord (w : Word) : List Char × Bool :=
  w.foldl
    (fun (s, quoted) part =>
      match part with
      | .text q t => (s ++ t, quoted || q)
      | _ => (s, quoted))
    ([], false)

/-- A text of the script after its sign: the mark, then from the next line on the text.  The text is
taken out of what follows. -/
def here? (fuel number : Nat) (stripTabs : Bool) (s : List Char) :
    Option (Redirect × List Char) := do
  let (mark, rest) ← word? fuel (skipBlanks s)
  let (mark, quoted) := plainWord mark
  let line := rest.takeWhile (· != '\n')
  let (text, after) := hereText mark stripTabs (rest.length + 1) (rest.drop (line.length + 1))
  let target ←
    if quoted then some [.text true text] else (parts? fuel .here text).map (·.1)
  some ({ number, kind := .here, target }, line ++ '\n' :: after)

/-- A redirection, if one stands here. -/
def redirect? (fuel : Nat) (s : List Char) : Option (Redirect × List Char) :=
  let digits := s.takeWhile Char.isDigit
  let given := if digits.isEmpty then none else some (digits.foldl
    (fun n c => n * 10 + (c.toNat - '0'.toNat)) 0)
  let target (number : Nat) (kind : RedirectKind) (rest : List Char) :
      Option (Redirect × List Char) :=
    (word? fuel (skipBlanks rest)).map fun (w, rest) =>
      ({ number := given.getD number, kind, target := w }, rest)
  match s.drop digits.length with
  | '<' :: '<' :: '-' :: rest => here? fuel (given.getD 0) true rest
  | '<' :: '<' :: rest => here? fuel (given.getD 0) false rest
  | '<' :: '&' :: rest => target 0 .copy rest
  | '<' :: rest => target 0 .read rest
  | '>' :: '>' :: rest => target 1 .append rest
  | '>' :: '&' :: rest => target 1 .copy rest
  | '>' :: '|' :: rest => target 1 .write rest
  | '>' :: rest => target 1 .write rest
  | _ => none

/-- The redirections that stand here. -/
def redirects : (fuel : Nat) → List Char → List Redirect × List Char
  | 0, s => ([], s)
  | fuel + 1, s =>
    match redirect? fuel (skipBlanks s) with
    | some (r, rest) =>
      let (more, rest) := redirects fuel rest
      (r :: more, rest)
    | none => ([], s)

/-! ### Commands -/

/-- The setting of a variable, if one stands here. -/
def setting? (fuel : Nat) (s : List Char) : Option ((String × Word) × List Char) :=
  let name := s.takeWhile isNameChar
  match name, s.drop name.length with
  | c :: _, '=' :: rest =>
    if c.isDigit then none
    else (parts? fuel .bare rest).map fun (w, rest) => ((String.ofList name, w), rest)
  | _, _ => none

/-- The parts of a simple command that are read so far. -/
structure Simple where
  /-- The variables that are set. -/
  settings : List (String × Word) := []
  /-- The words. -/
  words : List Word := []
  /-- The redirections. -/
  redirects : List Redirect := []

/-- The settings, words and redirections of a simple command. -/
def simple? : (fuel : Nat) → Simple → List Char → Option (Simple × List Char)
  | 0, _, _ => none
  | fuel + 1, c, s =>
    let s := skipBlanks s
    match redirect? fuel s with
    | some (r, rest) => simple? fuel { c with redirects := c.redirects ++ [r] } rest
    | none =>
      match if c.words.isEmpty then setting? fuel s else none with
      | some (setting, rest) => simple? fuel { c with settings := c.settings ++ [setting] } rest
      | none =>
        match s with
        | [] => some (c, [])
        | x :: _ =>
          if endsWord x then some (c, s)
          else do
            let (w, rest) ← parts? fuel .bare s
            simple? fuel { c with words := c.words ++ [w] } rest

/-- The word of letters that stands here, if it stands alone. -/
def keyword (s : List Char) : String :=
  let name := s.takeWhile isNameChar
  match s.drop name.length with
  | [] => String.ofList name
  | c :: _ => if endsWord c then String.ofList name else ""

/-- The words that end a list of commands. -/
def closers : List String :=
  ["then", "elif", "else", "fi", "do", "done", "esac"]

/-- Whether a list of commands ends here. -/
def endsList (s : List Char) : Bool :=
  match s with
  | [] => true
  | ')' :: _ => true
  | '\x7d' :: _ => true
  | ';' :: ';' :: _ => true
  | s => closers.contains (keyword s)

/-- The rest after a keyword. -/
def expect? (word : String) (s : List Char) : Option (List Char) :=
  let s := skipLines s.length s
  if keyword s = word then some (s.drop word.length) else none

/-- A command with its redirections. -/
def withRedirects (c : Command) (rs : List Redirect) : Command :=
  if rs.isEmpty then c else .redirected c rs

mutual

/-- A list of commands up to what ends it. -/
def list? (fuel : Nat) (s : List Char) : Option (Command × List Char) :=
  match fuel with
  | 0 => none
  | fuel + 1 => do
    let s := skipLines s.length s
    if endsList s then some (.nothing, s)
    else
      let (first, rest) ← chain? fuel s
      match skipBlanks rest with
      | ';' :: ';' :: rest => some (first, ';' :: ';' :: rest)
      | ';' :: rest => (list? fuel rest).map fun (more, rest) => (.sequence [first, more], rest)
      | '&' :: rest => (list? fuel rest).map fun (more, rest) => (.sequence [first, more], rest)
      | '\n' :: rest => (list? fuel rest).map fun (more, rest) => (.sequence [first, more], rest)
      | rest => if endsList rest then some (first, rest) else none

/-- Pipelines joined by `&&` and `||`. -/
def chain? (fuel : Nat) (s : List Char) : Option (Command × List Char) :=
  match fuel with
  | 0 => none
  | fuel + 1 => do
    let (first, rest) ← pipeline? fuel s
    links? fuel first rest

/-- The further links of a chain. -/
def links? (fuel : Nat) (c : Command) (s : List Char) : Option (Command × List Char) :=
  match fuel with
  | 0 => none
  | fuel + 1 =>
    match skipBlanks s with
    | '&' :: '&' :: rest => do
      let (next, rest) ← pipeline? fuel (skipLines rest.length rest)
      links? fuel (.andThen c next) rest
    | '|' :: '|' :: rest => do
      let (next, rest) ← pipeline? fuel (skipLines rest.length rest)
      links? fuel (.orElse c next) rest
    | rest => some (c, rest)

/-- A pipeline, perhaps negated. -/
def pipeline? (fuel : Nat) (s : List Char) : Option (Command × List Char) :=
  match fuel with
  | 0 => none
  | fuel + 1 =>
    match skipBlanks s with
    | '!' :: ' ' :: rest => (pipeline? fuel rest).map fun (c, rest) => (.negated c, rest)
    | s => do
      let (cs, rest) ← stages? fuel s
      match cs with
      | [c] => some (c, rest)
      | cs => some (.pipeline cs, rest)

/-- The commands of a pipeline. -/
def stages? (fuel : Nat) (s : List Char) : Option (List Command × List Char) :=
  match fuel with
  | 0 => none
  | fuel + 1 => do
    let (c, rest) ← command? fuel s
    match skipBlanks rest with
    | '|' :: '|' :: rest => some ([c], '|' :: '|' :: rest)
    | '|' :: rest =>
      let (cs, rest) ← stages? fuel (skipLines rest.length rest)
      some (c :: cs, rest)
    | rest => some ([c], rest)

/-- A command with its redirections. -/
def command? (fuel : Nat) (s : List Char) : Option (Command × List Char) :=
  match fuel with
  | 0 => none
  | fuel + 1 =>
    let s := skipBlanks s
    let compound (found : Option (Command × List Char)) : Option (Command × List Char) := do
      let (c, rest) ← found
      let (rs, rest) := redirects fuel rest
      some (withRedirects c rs, rest)
    match s with
    | '(' :: rest => compound do
      let (c, rest) ← list? fuel rest
      match rest with
      | ')' :: rest => some (.subshell c, rest)
      | _ => none
    | '\x7b' :: ' ' :: rest => compound (group? fuel rest)
    | '\x7b' :: '\n' :: rest => compound (group? fuel rest)
    | s =>
      match keyword s with
      | "if" => compound (branches? fuel (s.drop 2))
      | "for" => compound (each? fuel (s.drop 3))
      | "case" => compound do
        let (w, rest) ← word? fuel (skipBlanks (s.drop 4))
        let rest ← expect? "in" rest
        let (clauses, rest) ← clauses? fuel rest
        some (.select w clauses, rest)
      | "while" => compound (loop? fuel false (s.drop 5))
      | "until" => compound (loop? fuel true (s.drop 5))
      | _ =>
        let name := s.takeWhile isNameChar
        match skipBlanks (s.drop name.length) with
        | '(' :: rest =>
          match name, skipBlanks rest with
          | _ :: _, ')' :: rest => do
            let (body, rest) ← command? fuel (skipLines rest.length rest)
            some (.define (String.ofList name) body, rest)
          | _, _ => none
        | _ => do
          let (c, rest) ← simple? fuel {} s
          if c.settings.isEmpty && c.words.isEmpty && c.redirects.isEmpty then none
          else some (withRedirects (.simple c.settings c.words) c.redirects, rest)

/-- The commands of a group after its opening brace. -/
def group? (fuel : Nat) (s : List Char) : Option (Command × List Char) :=
  match fuel with
  | 0 => none
  | fuel + 1 => do
    let (c, rest) ← list? fuel s
    match rest with
    | '\x7d' :: rest => some (c, rest)
    | _ => none

/-- The test and the branches after `if` or `elif`. -/
def branches? (fuel : Nat) (s : List Char) : Option (Command × List Char) :=
  match fuel with
  | 0 => none
  | fuel + 1 => do
    let (test, rest) ← list? fuel s
    let (body, rest) ← list? fuel (← expect? "then" rest)
    match keyword rest with
    | "fi" => some (.branch test body none, rest.drop 2)
    | "else" =>
      let (otherwise, rest) ← list? fuel (rest.drop 4)
      some (.branch test body (some otherwise), ← expect? "fi" rest)
    | "elif" =>
      let (otherwise, rest) ← branches? fuel (rest.drop 4)
      some (.branch test body (some otherwise), rest)
    | _ => none

/-- The test and the body of a loop. -/
def loop? (fuel : Nat) (until_ : Bool) (s : List Char) : Option (Command × List Char) :=
  match fuel with
  | 0 => none
  | fuel + 1 => do
    let (test, rest) ← list? fuel s
    let (body, rest) ← list? fuel (← expect? "do" rest)
    some (.loop until_ test body, ← expect? "done" rest)

/-- The name, the words and the body after `for`. -/
def each? (fuel : Nat) (s : List Char) : Option (Command × List Char) :=
  match fuel with
  | 0 => none
  | fuel + 1 => do
    let s := skipBlanks s
    let name := s.takeWhile isNameChar
    let rest := s.drop name.length
    let (words, rest) ←
      match expect? "in" rest with
      | some rest => do
        let (c, rest) ← simple? fuel { words := [[]] } rest
        some (some (c.words.drop 1), rest)
      | none => some (none, rest)
    let rest :=
      match skipBlanks rest with
      | ';' :: rest => rest
      | rest => rest
    let (body, rest) ← list? fuel (← expect? "do" rest)
    some (.each (String.ofList name) words body, ← expect? "done" rest)

/-- The clauses of `case`, up to its end. -/
def clauses? (fuel : Nat) (s : List Char) : Option (List (List Word × Command) × List Char) :=
  match fuel with
  | 0 => none
  | fuel + 1 => do
    let s := skipLines s.length s
    if keyword s = "esac" then some ([], s.drop 4)
    else
      let s :=
        match s with
        | '(' :: rest => rest
        | s => s
      let (patterns, rest) ← patterns? fuel s
      let (body, rest) ← list? fuel rest
      match skipLines rest.length rest with
      | ';' :: ';' :: rest =>
        let (more, rest) ← clauses? fuel rest
        some ((patterns, body) :: more, rest)
      | rest => some ([(patterns, body)], ← expect? "esac" rest)

/-- The patterns of a clause, up to the closing parenthesis. -/
def patterns? (fuel : Nat) (s : List Char) : Option (List Word × List Char) :=
  match fuel with
  | 0 => none
  | fuel + 1 => do
    let (w, rest) ← word? fuel (skipBlanks s)
    match skipBlanks rest with
    | '|' :: rest =>
      let (more, rest) ← patterns? fuel rest
      some (w :: more, rest)
    | ')' :: rest => some ([w], rest)
    | _ => none

end

/-- Reads a script. -/
def parse? (script : List Char) : Option Command := do
  let (c, rest) ← list? (20 * script.length + 20) script
  if rest.isEmpty then some c else none

end AsmExplorer.Shell
