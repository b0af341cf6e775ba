import KarelLab.Program.Grammar.Basic
import KarelLab.Program.Literal

namespace KarelLab.Program.Grammar

inductive TextTrouble
  | own (c : Cause)
  | inner (s : Stop)
  deriving Inhabited

abbrev OpenQuote := Option (Char × Bool)

def splitExpression : List Char → List Char → OpenQuote → List Char →
    Except Cause (List Char × List Char)
  | [], _, quote, brackets =>
    match quote, brackets with
    | some _, _ => .error .formatUnterminated
    | none, b :: _ => .error (.formatUnmatched b)
    | none, [] => .error .formatExpectsBrace
  | c :: rest, done, quote, brackets =>
    if c = '\\' then .error .formatBackslash
    else match quote with
    | some (q, triple) =>
      if c = q then
        if triple then
          match rest with
          | a :: b :: rest' =>
            if a = q ∧ b = q then splitExpression rest' (q :: q :: q :: done) none brackets
            else splitExpression (a :: b :: rest') (c :: done) quote brackets
          | rest => splitExpression rest (c :: done) quote brackets
        else splitExpression rest (c :: done) none brackets
      else splitExpression rest (c :: done) quote brackets
    | none =>
      if c = '\'' ∨ c = '"' then
        match rest with
        | a :: b :: rest' =>
          if a = c ∧ b = c then splitExpression rest' (c :: c :: c :: done) (some (c, true)) brackets
          else splitExpression (a :: b :: rest') (c :: done) (some (c, false)) brackets
        | rest => splitExpression rest (c :: done) (some (c, false)) brackets
      else if c = '[' ∨ c = '(' ∨ c = '\x7b' then
        if maxBrackets ≤ brackets.length then .error .formatTooManyBrackets
        else splitExpression rest (c :: done) none (c :: brackets)
      else if c = '#' then .error .formatComment
      else match brackets with
      | [] =>
        if c = '!' ∨ c = ':' ∨ c = '\x7d' ∨ c = '=' ∨ c = '>' ∨ c = '<' then
          match rest with
          | '=' :: rest' =>
            if c = '!' ∨ c = '=' ∨ c = '<' ∨ c = '>' then
              splitExpression rest' ('=' :: c :: done) none []
            else .ok (done.reverse, c :: '=' :: rest')
          | rest =>
            if c = '<' ∨ c = '>' then splitExpression rest (c :: done) none []
            else .ok (done.reverse, c :: rest)
        else if c = ']' ∨ c = ')' then .error (.formatUnmatched c)
        else splitExpression rest (c :: done) none []
      | o :: outer =>
        if c = ']' ∨ c = ')' ∨ c = '\x7d' then
          if closing o = c then splitExpression rest (c :: done) none outer
          else .error (.formatMismatched c o)
        else splitExpression rest (c :: done) none brackets
  termination_by cs => cs.length

/-- Splits a formatted text at its first expression: the plain characters before it, what follows
and whether the split is only due to a doubled brace, which stands for one. Braces double only
outside of expressions. -/
def splitPlain (raw outermost : Bool) : List Char → List Char →
    Except Cause (List Char × List Char × Bool)
  | [], done => .ok (done.reverse, [], false)
  | '\\' :: 'N' :: rest, done =>
    if raw then
      splitPlain raw outermost ('N' :: rest) ('\\' :: done)
    else
      match rest with
      | '\x7b' :: body =>
        let name := body.takeWhile (· ≠ '\x7d')
        let after := body.drop (name.length + 1)
        splitPlain raw outermost after
          ((body.take (name.length + 1)).reverse ++ '\x7b' :: 'N' :: '\\' :: done)
      | c :: rest => splitPlain raw outermost rest (c :: 'N' :: '\\' :: done)
      | [] => splitPlain raw outermost [] ('N' :: '\\' :: done)
  | '\\' :: '\\' :: rest, done =>
    if raw then splitPlain raw outermost ('\\' :: rest) ('\\' :: done)
    else splitPlain raw outermost rest ('\\' :: '\\' :: done)
  | c :: rest, done =>
    if c = '\x7b' ∨ c = '\x7d' then
      if outermost then
        match rest with
        | d :: rest' =>
          if d = c then .ok ((c :: done).reverse, rest', true)
          else if c = '\x7d' then .error .formatLoneBrace
          else .ok (done.reverse, c :: rest, false)
        | [] => if c = '\x7d' then .error .formatLoneBrace else .ok (done.reverse, c :: rest, false)
      else .ok (done.reverse, c :: rest, false)
    else splitPlain raw outermost rest (c :: done)
  termination_by cs => cs.length
  decreasing_by all_goals (simp only [List.length_cons, List.length_drop]; omega)

def lineEnds (cs : List Char) : Nat := cs.count '\n'

def readEmbedded (embedded : List Char → Nat → Except Stop Expr) (cs : List Char) (next : Char)
    (line : Nat) : Except TextTrouble Unit :=
  if cs.all fun c => c == ' ' || c == '\t' || c == '\n' || c == '\x0c' then
    .error (.own (if next = '!' ∨ next = ':' ∨ next = '='
      then .formatExpressionBefore next else .formatEmpty))
  else
    match embedded ('(' :: cs ++ [')']) line with
    | .ok _ => .ok ()
    | .error s => .error (.inner s)

/-- Checks the parts of a formatted text from the given line on, and gives what is left. The
first number bounds the steps, the second one says how many expressions enclose the text. -/
def checkFormatted (embedded : List Char → Nat → Except Stop Expr) (raw : Bool) :
    Nat → Nat → List Char → Nat → Except TextTrouble (List Char × Nat)
  | 0, _, cs, line => .ok (cs, line)
  | n + 1, level, cs, line => do
    let own {α : Type} (r : Except Cause α) : Except TextTrouble α := r.mapError .own
    let (plain, rest, doubled) ← own (splitPlain raw (level == 0) cs [])
    let _ ← own (textValue raw plain)
    let line := line + lineEnds plain
    if doubled then checkFormatted embedded raw n level rest line
    else match rest with
    | '\x7b' :: inside =>
      if 2 ≤ level then throw (.own .formatTooDeep)
      let (expr, rest) ← own (splitExpression inside [] none [])
      let next := rest.headD '\x7d'
      readEmbedded embedded expr next line
      let line := line + lineEnds expr
      let rest := if next = '=' then
          (rest.drop 1).dropWhile fun c => c.isWhitespace || c == '\x0b' || c == '\x0c'
        else rest
      let rest ← match rest with
        | [] => throw (.own .formatExpectsBrace)
        | ['!'] => throw (.own .formatExpectsBrace)
        | '!' :: c :: after =>
          if c = 's' ∨ c = 'r' ∨ c = 'a' then pure after else throw (.own .formatConversion)
        | rest => pure rest
      let (rest, line) ← match rest with
        | [':'] => throw (.own .formatExpectsBrace)
        | ':' :: spec => checkFormatted embedded raw n (level + 1) spec line
        | rest => pure (rest, line)
      match rest with
      | '\x7d' :: after => checkFormatted embedded raw n level after line
      | _ => throw (.own .formatExpectsBrace)
    | rest =>
      if level ≠ 0 ∧ rest.head? ≠ some '\x7d' then throw (.own .formatExpectsBrace)
      else pure (rest, line)

def joinText (embedded : List Char → Nat → Except Stop Expr) (before : Option (Bool × Bool × String))
    (t : Token) : Except TextTrouble (Bool × Bool × String) := do
  let own {α : Type} (r : Except Cause α) : Except TextTrouble α := r.mapError .own
  let part := TextToken.ofText t.text
  let value ←
    if part.formatted then pure ""
    else if part.bytes then do own (checkBytes part); pure ""
    else own (textValue part.raw part.body)
  match before with
  | some (bytes, _, _) => if bytes ≠ part.bytes then throw (.own .mixedBytes)
  | none => pure ()
  if part.formatted then
    let _ ← checkFormatted embedded part.raw (part.body.length + 1) 0 part.body t.line
  match before with
  | some (_, formatted, value') => return (part.bytes, formatted || part.formatted, value' ++ value)
  | none => return (part.bytes, part.formatted, value)

def joinTexts (tokens : List Token) : Parser Expr := fun st m =>
  let step (acc : Except TextTrouble (Option (Bool × Bool × String))) (t : Token) :=
    acc.bind fun before => (joinText st.embedded before t).map some
  let line := match tokens with
    | t :: _ => t.line
    | [] => 1
  match tokens.foldl step (.ok none) with
  | .ok none => .stop .noMatch m
  | .ok (some (bytes, formatted, value)) =>
    if formatted then .match (.other line .formatted []) m
    else .match (.literal line (if bytes then .bytes else .text value)) m
  | .error (.own .nonAsciiBytes) => Parser.refuse .nonAsciiBytes line st m
  | .error (.own c) => Parser.refuseHere c st m
  | .error (.inner s) => .stop s m

end KarelLab.Program.Grammar
