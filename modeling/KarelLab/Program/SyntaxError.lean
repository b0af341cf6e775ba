namespace KarelLab.Program

inductive Construct
  | function | classDefinition | ifs | elifs | elses | whiles | fors | withs | trys | excepts
  | exceptStars | finallys | matchs | cases
  deriving Repr, DecidableEq, Inhabited

def Construct.name : Construct → String
  | function => "function definition"
  | classDefinition => "class definition"
  | ifs => "'if' statement"
  | elifs => "'elif' statement"
  | elses => "'else' statement"
  | whiles => "'while' statement"
  | fors => "'for' statement"
  | withs => "'with' statement"
  | trys => "'try' statement"
  | excepts => "'except' statement"
  | exceptStars => "'except*' statement"
  | finallys => "'finally' statement"
  | matchs => "'match' statement"
  | cases => "'case' statement"

inductive Base
  | binary | octal | decimal | hexadecimal | imaginary
  deriving Repr, DecidableEq, Inhabited

def Base.name : Base → String
  | binary => "binary"
  | octal => "octal"
  | decimal => "decimal"
  | hexadecimal => "hexadecimal"
  | imaginary => "imaginary"

inductive Cause
  -- characters and numbers
  | nullCharacter
  | invalidCharacter (c : Char)
  | hiddenCharacter (c : Char)
  | invalidNumber (base : Base)
  | invalidDigit (digit : Char) (base : Base)
  | leadingZeros
  | tooManyDigits (count : Nat)
  -- texts
  | unterminatedText (line : Nat)
  | unterminatedBlockText (line : Nat)
  | nonAsciiBytes
  | mixedBytes
  | badEscape (first last : Nat) (reason : String)
  | badByteEscape (position : Nat)
  -- formatted texts
  | inFormatted (c : Cause)
  | formatExpectsBrace
  | formatEmpty
  | formatExpressionBefore (c : Char)
  | formatLoneBrace
  | formatBackslash
  | formatComment
  | formatTooDeep
  | formatUnterminated
  | formatTooManyBrackets
  | formatUnmatched (c : Char)
  | formatMismatched (c opening : Char)
  | formatConversion
  | formatUnexpectedEnd
  -- brackets, lines and indentation
  | unmatched (c : Char)
  | mismatched (c opening : Char)
  | mismatchedAcross (c opening : Char) (line : Nat)
  | tooManyBrackets
  | neverClosed (c : Char)
  | unexpectedEnd
  | badContinuation
  | unexpectedIndent
  | unexpectedDedent
  | badDedent
  | mixedTabs
  | tooManyLevels
  | noBlock
  | noBlockAfter (k : Construct) (line : Nat)
  -- sentences
  | invalid
  | expected (mark : String)
  | forgottenComma
  | expectedElse
  | missingParentheses (name : String)
  | equalsForComparison
  | cannotAssign (what : String)
  | cannotAssignHere (what : String)
  | cannotDelete (what : String)
  | cannotNameWith (what : String)
  | assignToYield
  | illegalAugmented (what : String)
  | cannotAnnotate
  | singleTargetOnly (what : String)
  | starredHere
  | doubleStarredHere
  | unpackingInComprehension
  | unpackingInDictComprehension
  | parenthesesAroundTarget
  | unparenthesizedGenerator
  | unpackingAfterKeyword
  | positionalAfterUnpacking
  | positionalAfterKeyword
  | assignmentInArgument
  | starredDictValue
  | dictValueExpected
  | dictColonExpected
  | defaultExpected
  | nonDefaultAfterDefault
  | parenthesizedParameters
  | parenthesizedLambdaParameters
  | nothingBeforeSlash
  | secondSlash
  | slashAfterStar
  | commaBetweenSlashAndStar
  | bareStar
  | defaultForStar
  | secondStar
  | defaultForDoubleStar
  | afterDoubleStar
  | trailingImportComma
  | exceptOrFinally
  | exceptAndExceptStar
  | exceptStarWithoutType
  | unparenthesizedExceptions
  | underscoreTarget
  | invalidPatternTarget
  | positionalAfterKeywordPattern
  | realExpected
  | imaginaryExpected
  -- checks on the whole program
  | tooManyNestedLoops
  | breakOutsideLoop
  | continueOutsideLoop
  | returnOutsideFunction
  deriving Repr, DecidableEq, Inhabited

def codePoint (c : Char) : String :=
  let ds := (Nat.toDigits 16 c.toNat).map Char.toUpper
  "U+" ++ String.ofList (List.replicate (4 - ds.length) '0' ++ ds)

namespace Cause

def message : Cause → String
  | nullCharacter => "source code string cannot contain null bytes"
  | invalidCharacter c => "invalid character '" ++ String.singleton c ++ "' (" ++ codePoint c ++ ")"
  | hiddenCharacter c => "invalid non-printable character " ++ codePoint c
  | invalidNumber b => "invalid " ++ b.name ++ " literal"
  | invalidDigit d b => "invalid digit '" ++ String.singleton d ++ "' in " ++ b.name ++ " literal"
  | leadingZeros =>
    "leading zeros in decimal integer literals are not permitted; " ++
      "use an 0o prefix for octal integers"
  | tooManyDigits n =>
    "Exceeds the limit (4300 digits) for integer string conversion: value has " ++ toString n ++
      " digits; use sys.set_int_max_str_digits() to increase the limit" ++
      " - Consider hexadecimal for huge integer literals to avoid decimal conversion limits."
  | unterminatedText n => "unterminated string literal (detected at line " ++ toString n ++ ")"
  | unterminatedBlockText n =>
    "unterminated triple-quoted string literal (detected at line " ++ toString n ++ ")"
  | nonAsciiBytes => "bytes can only contain ASCII literal characters"
  | mixedBytes => "cannot mix bytes and nonbytes literals"
  | badEscape first last reason =>
    "(unicode error) 'unicodeescape' codec can't decode bytes in position " ++ toString first ++
      "-" ++ toString last ++ ": " ++ reason
  | badByteEscape n => "(value error) invalid \\x escape at position " ++ toString n
  | inFormatted c => "f-string: " ++ c.message
  | formatExpectsBrace => "f-string: expecting '\x7d'"
  | formatEmpty => "f-string: empty expression not allowed"
  | formatExpressionBefore c => "f-string: expression required before '" ++ String.singleton c ++ "'"
  | formatLoneBrace => "f-string: single '\x7d' is not allowed"
  | formatBackslash => "f-string expression part cannot include a backslash"
  | formatComment => "f-string expression part cannot include '#'"
  | formatTooDeep => "f-string: expressions nested too deeply"
  | formatUnterminated => "f-string: unterminated string"
  | formatTooManyBrackets => "f-string: too many nested parenthesis"
  | formatUnmatched c => "f-string: unmatched '" ++ String.singleton c ++ "'"
  | formatMismatched c o =>
    "f-string: closing parenthesis '" ++ String.singleton c ++
      "' does not match opening parenthesis '" ++ String.singleton o ++ "'"
  | formatConversion => "f-string: invalid conversion character: expected 's', 'r', or 'a'"
  | formatUnexpectedEnd => "f-string: unexpected end of string"
  | unmatched c => "unmatched '" ++ String.singleton c ++ "'"
  | mismatched c o =>
    "closing parenthesis '" ++ String.singleton c ++ "' does not match opening parenthesis '" ++
      String.singleton o ++ "'"
  | mismatchedAcross c o n =>
    "closing parenthesis '" ++ String.singleton c ++ "' does not match opening parenthesis '" ++
      String.singleton o ++ "' on line " ++ toString n
  | tooManyBrackets => "too many nested parentheses"
  | neverClosed c => "'" ++ String.singleton c ++ "' was never closed"
  | unexpectedEnd => "unexpected EOF while parsing"
  | badContinuation => "unexpected character after line continuation character"
  | unexpectedIndent => "unexpected indent"
  | unexpectedDedent => "unexpected unindent"
  | badDedent => "unindent does not match any outer indentation level"
  | mixedTabs => "inconsistent use of tabs and spaces in indentation"
  | tooManyLevels => "too many levels of indentation"
  | noBlock => "expected an indented block"
  | noBlockAfter k n => "expected an indented block after " ++ k.name ++ " on line " ++ toString n
  | invalid => "invalid syntax"
  | expected mark => "expected '" ++ mark ++ "'"
  | forgottenComma => "invalid syntax. Perhaps you forgot a comma?"
  | expectedElse => "expected 'else' after 'if' expression"
  | missingParentheses name =>
    "Missing parentheses in call to '" ++ name ++ "'. Did you mean " ++ name ++ "(...)?"
  | equalsForComparison => "invalid syntax. Maybe you meant '==' or ':=' instead of '='?"
  | cannotAssign what => "cannot assign to " ++ what
  | cannotAssignHere what =>
    "cannot assign to " ++ what ++ " here. Maybe you meant '==' instead of '='?"
  | cannotDelete what => "cannot delete " ++ what
  | cannotNameWith what => "cannot use assignment expressions with " ++ what
  | assignToYield => "assignment to yield expression not possible"
  | illegalAugmented what =>
    "'" ++ what ++ "' is an illegal expression for augmented assignment"
  | cannotAnnotate => "illegal target for annotation"
  | singleTargetOnly what => "only single target (not " ++ what ++ ") can be annotated"
  | starredHere => "cannot use starred expression here"
  | doubleStarredHere => "cannot use double starred expression here"
  | unpackingInComprehension => "iterable unpacking cannot be used in comprehension"
  | unpackingInDictComprehension => "dict unpacking cannot be used in dict comprehension"
  | parenthesesAroundTarget => "did you forget parentheses around the comprehension target?"
  | unparenthesizedGenerator => "Generator expression must be parenthesized"
  | unpackingAfterKeyword => "iterable argument unpacking follows keyword argument unpacking"
  | positionalAfterUnpacking => "positional argument follows keyword argument unpacking"
  | positionalAfterKeyword => "positional argument follows keyword argument"
  | assignmentInArgument =>
    "expression cannot contain assignment, perhaps you meant \"==\"?"
  | starredDictValue => "cannot use a starred expression in a dictionary value"
  | dictValueExpected => "expression expected after dictionary key and ':'"
  | dictColonExpected => "':' expected after dictionary key"
  | defaultExpected => "expected default value expression"
  | nonDefaultAfterDefault => "non-default argument follows default argument"
  | parenthesizedParameters => "Function parameters cannot be parenthesized"
  | parenthesizedLambdaParameters => "Lambda expression parameters cannot be parenthesized"
  | nothingBeforeSlash => "at least one argument must precede /"
  | secondSlash => "/ may appear only once"
  | slashAfterStar => "/ must be ahead of *"
  | commaBetweenSlashAndStar => "expected comma between / and *"
  | bareStar => "named arguments must follow bare *"
  | defaultForStar => "var-positional argument cannot have default value"
  | secondStar => "* argument may appear only once"
  | defaultForDoubleStar => "var-keyword argument cannot have default value"
  | afterDoubleStar => "arguments cannot follow var-keyword argument"
  | trailingImportComma => "trailing comma not allowed without surrounding parentheses"
  | exceptOrFinally => "expected 'except' or 'finally' block"
  | exceptAndExceptStar => "cannot have both 'except' and 'except*' on the same 'try'"
  | exceptStarWithoutType => "expected one or more exception types"
  | unparenthesizedExceptions => "multiple exception types must be parenthesized"
  | underscoreTarget => "cannot use '_' as a target"
  | invalidPatternTarget => "invalid pattern target"
  | positionalAfterKeywordPattern => "positional patterns follow keyword patterns"
  | realExpected => "real number required in complex literal"
  | imaginaryExpected => "imaginary number required in complex literal"
  | tooManyNestedLoops => "too many statically nested blocks"
  | breakOutsideLoop => "'break' outside loop"
  | continueOutsideLoop => "'continue' not properly in loop"
  | returnOutsideFunction => "'return' outside function"

end Cause

structure SyntaxError where
  cause : Cause
  line : Nat
  deriving Repr, DecidableEq, Inhabited

namespace SyntaxError

def message (e : SyntaxError) : String := e.cause.message

end SyntaxError

end KarelLab.Program
