import StoryCatalog.Text.Basic

/-!
# Complaints of the strict reader

What the strict reader has to say of a script that it refuses, and the wording. A numeric character
reference that stands for no character ends the reading without a complaint about a place.
-/

namespace StoryCatalog.Script.Strict

/-- Why a script is refused. -/
inductive Complaint where
  | unexpectedToken (token : Text)
  | unexpectedTemplate (token : Text)
  | unexpected
  | illegalToken
  | endOfInput
  | unexpectedIdentifier
  | unexpectedNumber
  | unexpectedString
  | reservedWord
  | strictReservedWord
  | escapedKeyword
  | invalidHexEscape
  | strictOctal
  | templateOctal
  | unterminatedRegExp
  | invalidRegExp
  | getterArity
  | setterArity
  | setterRest
  | asyncConstructor
  | specialConstructor
  | duplicateConstructor
  | staticPrototype
  | missingInitializer (kind : String)
  | equalsToken
  | duplicateBinding (name : Text)
  | duplicateProto
  | loopInitializer (loop : String)
  | illegalBreak
  | illegalContinue
  | illegalReturn
  | illegalDirective
  | assignmentTarget
  | forInTarget
  | forLoopTarget
  | letAsName
  | twoDefaults
  | newlineAfterThrow
  | noCatchOrFinally
  | restNotLast
  | labelRedeclared (name : Text)
  | unknownLabel (name : Text)
  | strictCatchVariable
  | strictDelete
  | strictFunction
  | strictFunctionName
  | strictAssignment
  | strictPrefix
  | strictPostfix
  | strictWith
  | strictParameterName
  | strictParameterTwice
  | strictVariableName
  | emptyMarkupAttribute
  | closingTag (name : Text)

/-- The wording of a complaint. -/
def Complaint.message : Complaint → Text
  | .unexpectedToken token => "Unexpected token " ++ token
  | .unexpectedTemplate token => "Unexpected quasi " ++ token
  | .unexpected => "Unexpected token"
  | .illegalToken => "Unexpected token ILLEGAL"
  | .endOfInput => "Unexpected end of input"
  | .unexpectedIdentifier => "Unexpected identifier"
  | .unexpectedNumber => "Unexpected number"
  | .unexpectedString => "Unexpected string"
  | .reservedWord => "Unexpected reserved word"
  | .strictReservedWord => "Use of future reserved word in strict mode"
  | .escapedKeyword => "Keyword must not contain escaped characters"
  | .invalidHexEscape => "Invalid hexadecimal escape sequence"
  | .strictOctal => "Octal literals are not allowed in strict mode."
  | .templateOctal => "Octal literals are not allowed in template strings."
  | .unterminatedRegExp => "Invalid regular expression: missing /"
  | .invalidRegExp => "Invalid regular expression"
  | .getterArity => "Getter must not have any formal parameters"
  | .setterArity => "Setter must have exactly one formal parameter"
  | .setterRest => "Setter function argument must not be a rest parameter"
  | .asyncConstructor => "Class constructor may not be an async method"
  | .specialConstructor => "Class constructor may not be an accessor"
  | .duplicateConstructor => "A class may only have one constructor"
  | .staticPrototype => "Classes may not have static property named prototype"
  | .missingInitializer kind => "Missing initializer in " ++ (kind : Text) ++ " declaration"
  | .equalsToken => "Unexpected token ="
  | .duplicateBinding name => "Duplicate binding " ++ name
  | .duplicateProto => "Duplicate __proto__ fields are not allowed in object literals"
  | .loopInitializer loop => loop ++ " loop variable declaration may not have an initializer"
  | .illegalBreak => "Illegal break statement"
  | .illegalContinue => "Illegal continue statement"
  | .illegalReturn => "Illegal return statement"
  | .illegalDirective =>
      "Illegal 'use strict' directive in function with non-simple parameter list"
  | .assignmentTarget => "Invalid left-hand side in assignment"
  | .forInTarget => "Invalid left-hand side in for-in"
  | .forLoopTarget => "Invalid left-hand side in for-loop"
  | .letAsName => "let is disallowed as a lexically bound name"
  | .twoDefaults => "More than one default clause in switch statement"
  | .newlineAfterThrow => "Illegal newline after throw"
  | .noCatchOrFinally => "Missing catch or finally after try"
  | .restNotLast => "Rest parameter must be last formal parameter"
  | .labelRedeclared name => "Label '" ++ name ++ "' has already been declared"
  | .unknownLabel name => "Undefined label '" ++ name ++ "'"
  | .strictCatchVariable => "Catch variable may not be eval or arguments in strict mode"
  | .strictDelete => "Delete of an unqualified identifier in strict mode."
  | .strictFunction =>
      "In strict mode code, functions can only be declared at top level or inside a block"
  | .strictFunctionName => "Function name may not be eval or arguments in strict mode"
  | .strictAssignment => "Assignment to eval or arguments is not allowed in strict mode"
  | .strictPrefix =>
      "Prefix increment/decrement may not have eval or arguments operand in strict mode"
  | .strictPostfix =>
      "Postfix increment/decrement may not have eval or arguments operand in strict mode"
  | .strictWith => "Strict mode code may not include a with statement"
  | .strictParameterName => "Parameter name eval or arguments is not allowed in strict mode"
  | .strictParameterTwice => "Strict mode function may not have duplicate parameter names"
  | .strictVariableName => "Variable name may not be eval or arguments in strict mode"
  | .emptyMarkupAttribute => "JSX attributes must only be assigned a non-empty expression"
  | .closingTag name => "Expected corresponding JSX closing tag for " ++ name

/-- Why a numeric character reference stands for no character: it is beyond the last one, beyond a
machine integer, or has too many digits to be read as a number. -/
inductive ReferenceFault where
  | noCharacter
  | noInteger
  | tooLong (digits : Nat)
deriving DecidableEq, Repr

namespace ReferenceFault

/-- What is wrong with a reference in a base by these digits, whose value is given. -/
def ofDigits? (base count value : Nat) : Option ReferenceFault :=
  if base == 10 && Text.mostDigits < count then some (.tooLong count)
  else if 0x7FFFFFFF < value then some .noInteger
  else if 0x10FFFF < value then some .noCharacter
  else none

/-- The wording of a fault. -/
def message : ReferenceFault → Text
  | .noCharacter => "chr() arg not in range(0x110000)"
  | .noInteger => "Python int too large to convert to C int"
  | .tooLong digits => Text.tooManyDigits (some digits)

end ReferenceFault

end StoryCatalog.Script.Strict
