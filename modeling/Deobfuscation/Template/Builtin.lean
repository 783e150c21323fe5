import Deobfuscation.Template.Match

/-!
# The built-in templates

The standard template recognises the lines of a stack trace and the messages of the exceptions
that name classes, fields or methods; the last of its alternatives recognises any line that is
just a class, alone or before a message.  Another template finds the method that was called on
a missing return value, the second of two methods on one line.

* `Template.standard`, `Template.calledMethod` — the compiled templates;
* `isSome_standard`, `isSome_calledMethod` — **proved**: their texts are valid.
-/

namespace Deobfuscation.Template

/-! ### Alternatives -/

/-- A class and a method. -/
def classMethodText : List Char := "%c\\.%m".toList

/-- An offset, the source file and line, and the archive, each of which may be missing. -/
def sourceText : List Char :=
  "\\s*(?:\\+\\s+[0-9]+)?(?:\\(\\))?".toList ++ "(?:\\((?:%s)?(?::?%l)?".toList ++
    "(?::\\d+)?\\))?\\s*(?:~\\[.*\\])?".toList

/-- A frame of a stack trace. -/
def stackTraceText : List Char := ".*?\\bat\\s+".toList ++ classMethodText ++ sourceText

/-- The beginning of a message about a failed cast. -/
def failedCastText : List Char := ".*?\\bjava\\.lang\\.".toList ++ "ClassCastException: ".toList

/-- The middle of a message about a failed cast. -/
def cannotBeCastText : List Char := " cannot be cast to ".toList

/-- A failed cast, with the class of the value.  The class it should have had needs five
characters, or the next alternative takes it for the obfuscated one. -/
def castFromText : List Char :=
  failedCastText ++ "%c".toList ++ cannotBeCastText ++ ".\x7b5,\x7d".toList

/-- A failed cast, with the class that the value should have had. -/
def castToText : List Char := failedCastText ++ ".*".toList ++ cannotBeCastText ++ "%c".toList

/-- The beginning of a message about a missing object. -/
def missingObjectText : List Char :=
  ".*?\\bjava\\.lang\\.".toList ++ "NullPointerException: ".toList

/-- The end of a message about a missing object. -/
def nullReferenceText : List Char := "' on a null object reference".toList

/-- A field read from a missing object. -/
def fieldReadText : List Char :=
  missingObjectText ++ "Attempt to read from field '".toList ++ "%t %c\\.%f".toList ++
    nullReferenceText

/-- A field written to a missing object. -/
def fieldWriteText : List Char :=
  missingObjectText ++ "Attempt to write to field '".toList ++ "%t %c\\.%f".toList ++
    nullReferenceText

/-- A method invoked on a missing object. -/
def methodInvokedText : List Char :=
  missingObjectText ++ "Attempt to invoke ".toList ++ "(?:virtual|interface) method '".toList ++
    "%t %c\\.%m\\(%a\\)".toList ++ nullReferenceText

/-- The message about a call of a method on the return value of another, either of them given by
its expression. -/
def returnValueMessage (called missing : List Char) : List Char :=
  missingObjectText ++ "Cannot invoke \"".toList ++ called ++
    "\" because the return value of \"".toList ++ missing ++ "\" is null".toList

/-- A method whose return value is missing. -/
def returnValueText : List Char := returnValueMessage ".*".toList "%c\\.%m\\(%a\\)".toList

/-- A method called on a missing return value. -/
def nullReceiverText : List Char := returnValueMessage "%c\\.%m\\(%a\\)".toList ".*".toList

/-- A field without a value. -/
def missingFieldText : List Char := ".*?\\bbecause \"%c\\.%f\" is null".toList

/-- A line that is a class, perhaps after other words and before a message. -/
def exceptionText : List Char := "(?:.*?[:\"]\\s+)?%c(?::.*)?$".toList

/-! ### Templates -/

/-- An alternative in parentheses. -/
def parenthesised (alternative : List Char) : List Char :=
  ['(', '?', ':'] ++ alternative ++ [')']

/-- Alternatives in order of preference. -/
def alternativesText (alternatives : List (List Char)) : List Char :=
  List.intercalate ['|'] (alternatives.map parenthesised)

/-- The text of the standard template. -/
def standardText : List Char :=
  alternativesText
    [stackTraceText, castFromText, castToText, fieldReadText, fieldWriteText,
      methodInvokedText, returnValueText, missingFieldText, exceptionText]

/-- The text of the template of called methods. -/
def calledMethodText : List Char := alternativesText [nullReceiverText]

/-- **The text of the standard template is valid.** -/
theorem isSome_standard : (ofText? standardText).isSome = true := by decide +kernel

/-- **The text of the template of called methods is valid.** -/
theorem isSome_calledMethod : (ofText? calledMethodText).isSome = true := by decide +kernel

/-- The template of stack traces and exception messages. -/
def standard : Template := (ofText? standardText).get isSome_standard

/-- The template of the second method on a line. -/
def calledMethod : Template := (ofText? calledMethodText).get isSome_calledMethod

end Deobfuscation.Template
