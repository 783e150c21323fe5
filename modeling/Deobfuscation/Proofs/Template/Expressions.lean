import Deobfuscation.Proofs.Regex.Planning
import Deobfuscation.Template.Builtin

/-!
# The expressions of the built-in templates

What the texts of the built-in templates read as, with a name for each part.  The expressions of
the names are shared by all the alternatives; an alternative gives its groups the numbers that
follow those of the alternatives before it.

* `segmentSet`, `classExpr`, `memberExpr`, `typeExpr`, `argumentsExpr`, `sourceFileExpr`,
  `lineExpr` — the expressions of the placeholders;
* `stackTraceExpr`, …, `exceptionExpr` — the alternatives;
* `standardExpr`, `calledMethodExpr` — the built-in templates as expressions;
* `standard_plan`, `calledMethod_plan` — **proved**: they are what the templates are planned from;
* `standard_placeholders`, `calledMethod_placeholders` — **proved**: the placeholders, group by
  group.
-/

namespace Deobfuscation.Template

open Regex Expr

/-! ### Parts -/

/-- A text that is given as a string. -/
def textExpr (s : String) : Expr := literal s.toList

/-- An expression or nothing. -/
def optionalExpr (x : Expr) : Expr := rounds 0 (some 1) true x

/-- Any number of rounds, many rather than few. -/
def repeatedExpr (x : Expr) : Expr := rounds 0 none true x

/-- At least one round, many rather than few. -/
def severalExpr (x : Expr) : Expr := rounds 1 none true x

/-- The characters that are none of the given ones. -/
def setWithout (cs : List Char) : CharSet := .complement (.unionOf (cs.map .only))

/-- The characters of a line. -/
def lineSet : CharSet := setWithout ['\n']

/-- A place where a word begins or ends. -/
def wordBoundary : Expr := assert (.word false .boundary)

/-- An expression after as few characters as possible, at the edge of a word. -/
def afterWords (x : Expr) : Expr := seq (rounds 0 none false (set lineSet)) (seq wordBoundary x)

/-! ### Names -/

/-- The characters of a segment. -/
def segmentSet : CharSet :=
  .complement (.unionOf (.blank :: ['\x22', ':', '.', '/', '(', ')'].map .only))

/-- A segment of a path. -/
def segmentExpr : Expr := severalExpr (set segmentSet)

/-- A segment and the dot after it. -/
def segmentDotExpr : Expr := seq segmentExpr (char '.')

/-- A path, whose last segment goes on as `last`. -/
def pathExpr (last : Expr) : Expr := seq (repeatedExpr segmentDotExpr) last

/-- A class. -/
def classExpr : Expr := pathExpr segmentExpr

/-- The brackets of an array type. -/
def bracketsExpr : Expr := repeatedExpr (textExpr "[]")

/-- A type. -/
def typeExpr : Expr := pathExpr (seq segmentExpr bracketsExpr)

/-- The name of a field or a method. -/
def memberExpr : Expr :=
  seq (optionalExpr (char '<')) (seq segmentExpr (optionalExpr (char '>')))

/-- A comma and the type after it. -/
def furtherTypeExpr : Expr :=
  seq (repeatedExpr (set .blank)) (seq (char ',') (seq (repeatedExpr (set .blank)) typeExpr))

/-- Types parted by commas, or nothing. -/
def argumentsExpr : Expr :=
  optionalExpr (pathExpr (seq segmentExpr (seq bracketsExpr (repeatedExpr furtherTypeExpr))))

/-- The characters that a source file begins with. -/
def sourceFileHeadSet : CharSet :=
  .complement (.unionOf ([':', '(', ')'].map .only ++ [.decimal]))

/-- The name of a source file, or nothing. -/
def sourceFileExpr : Expr :=
  optionalExpr (seq (set sourceFileHeadSet) (repeatedExpr (set (setWithout [':', '(', ')']))))

/-- A line number. -/
def lineExpr : Expr :=
  seq (optionalExpr (char '-'))
    (seq wordBoundary (seq (severalExpr (set .decimal)) wordBoundary))

/-- A class and a member, in two groups, and what follows them. -/
def memberOfClassExpr (group : Nat) (next : Expr) : Expr :=
  seq (.group group classExpr) (seq (char '.') (seq (.group (group + 1) memberExpr) next))

/-- A class, a method and its argument types, in three groups, and the text that follows them. -/
def methodOfClassExpr (group : Nat) (next : Expr) : Expr :=
  memberOfClassExpr group (seq (char '(') (seq (.group (group + 2) argumentsExpr) next))

/-! ### A frame of a stack trace -/

/-- The offset of a frame. -/
def offsetExpr : Expr :=
  seq (char '+') (seq (severalExpr (set .blank)) (severalExpr (set (.range '0' '9'))))

/-- A line number after a colon. -/
def laterLineExpr : Expr := seq (char ':') (severalExpr (set .decimal))

/-- The source file and the line of a frame. -/
def placeExpr : Expr :=
  seq (char '(')
    (seq (optionalExpr (.group 3 sourceFileExpr))
      (seq (optionalExpr (seq (optionalExpr (char ':')) (.group 4 lineExpr)))
        (seq (optionalExpr laterLineExpr) (char ')'))))

/-- The archive of a frame. -/
def archiveExpr : Expr := seq (textExpr "~[") (seq (repeatedExpr (set lineSet)) (char ']'))

/-- What follows the method of a frame. -/
def sourceExpr : Expr :=
  seq (repeatedExpr (set .blank))
    (seq (optionalExpr offsetExpr)
      (seq (optionalExpr (textExpr "()"))
        (seq (optionalExpr placeExpr)
          (seq (repeatedExpr (set .blank)) (optionalExpr archiveExpr)))))

/-- A frame of a stack trace. -/
def stackTraceExpr : Expr :=
  afterWords
    (seq (textExpr "at") (seq (severalExpr (set .blank)) (memberOfClassExpr 1 sourceExpr)))

/-! ### Messages -/

/-- A failed cast, with the class of the value. -/
def castFromExpr : Expr :=
  afterWords
    (seq (textExpr "java.lang.ClassCastException: ")
      (seq (.group 5 classExpr)
        (seq (textExpr " cannot be cast to ") (rounds 5 none true (set lineSet)))))

/-- A failed cast, with the class that the value should have had. -/
def castToExpr : Expr :=
  afterWords
    (seq (textExpr "java.lang.ClassCastException: ")
      (seq (repeatedExpr (set lineSet))
        (seq (textExpr " cannot be cast to ") (.group 6 classExpr))))

/-- A field of a missing object. -/
def fieldAccessExpr (message : String) (group : Nat) : Expr :=
  afterWords
    (seq (textExpr message)
      (seq (.group group typeExpr)
        (seq (char ' ')
          (memberOfClassExpr (group + 1) (textExpr "' on a null object reference")))))

/-- A method invoked on a missing object. -/
def methodInvokedExpr : Expr :=
  afterWords
    (seq (textExpr "java.lang.NullPointerException: Attempt to invoke ")
      (seq (alt (textExpr "virtual") (textExpr "interface"))
        (seq (textExpr " method '")
          (seq (.group 13 typeExpr)
            (seq (char ' ')
              (methodOfClassExpr 14 (textExpr ")' on a null object reference")))))))

/-- The beginning of a message about a missing return value. -/
def cannotInvoke : String := "java.lang.NullPointerException: Cannot invoke \""

/-- The middle of a message about a missing return value. -/
def becauseReturnValue : String := "\" because the return value of \""

/-- A method whose return value is missing. -/
def returnValueExpr : Expr :=
  afterWords
    (seq (textExpr cannotInvoke)
      (seq (repeatedExpr (set lineSet))
        (seq (textExpr becauseReturnValue) (methodOfClassExpr 17 (textExpr ")\" is null")))))

/-- A field without a value. -/
def missingFieldExpr : Expr :=
  afterWords (seq (textExpr "because \"") (memberOfClassExpr 20 (textExpr "\" is null")))

/-- A line that is a class, perhaps after other words and before a message. -/
def exceptionExpr : Expr :=
  seq
    (optionalExpr
      (seq (rounds 0 none false (set lineSet))
        (seq (set (.union (.only ':') (.only '\x22'))) (severalExpr (set .blank)))))
    (seq (.group 22 classExpr)
      (seq (optionalExpr (seq (char ':') (repeatedExpr (set lineSet)))) (assert .textEnd)))

/-- A method called on a missing return value. -/
def nullReceiverExpr : Expr :=
  afterWords
    (seq (textExpr cannotInvoke)
      (methodOfClassExpr 1
        (seq (textExpr (")" ++ becauseReturnValue))
          (seq (repeatedExpr (set lineSet)) (textExpr "\" is null")))))

/-! ### The templates -/

/-- The alternatives of the standard template after the first. -/
def messageExpr : Expr :=
  alt castFromExpr (alt castToExpr
    (alt (fieldAccessExpr "java.lang.NullPointerException: Attempt to read from field '" 7)
      (alt (fieldAccessExpr "java.lang.NullPointerException: Attempt to write to field '" 10)
        (alt methodInvokedExpr (alt returnValueExpr (alt missingFieldExpr exceptionExpr))))))

/-- The standard template. -/
def standardExpr : Expr := seq (assert .textStart) (alt stackTraceExpr messageExpr)

/-- The template of the second method on a line. -/
def calledMethodExpr : Expr := seq (assert .textStart) nullReceiverExpr

theorem ofText?_standard : Expr.ofText? (expression standardText) = some standardExpr := by
  decide +kernel

theorem ofText?_calledMethod :
    Expr.ofText? (expression calledMethodText) = some calledMethodExpr := by
  decide +kernel

/-- **The standard template is planned from its expression.** -/
theorem standard_plan : standard.plan = .ofExpr standardExpr := by
  simp only [standard, ofText?, ofText?_standard, Option.map_some, Option.get_some]

/-- **The template of called methods is planned from its expression.** -/
theorem calledMethod_plan : calledMethod.plan = .ofExpr calledMethodExpr := by
  simp only [calledMethod, ofText?, ofText?_calledMethod, Option.map_some, Option.get_some]

theorem isProductive_standardExpr : standardExpr.isProductive = true := rfl

theorem isProductive_calledMethodExpr : calledMethodExpr.isProductive = true := rfl

/-- **The placeholders of the standard template, group by group.** -/
theorem standard_placeholders :
    standard.placeholders =
      [.dottedClass, .method, .sourceFile, .line, .dottedClass, .dottedClass,
        .type, .dottedClass, .field, .type, .dottedClass, .field,
        .type, .dottedClass, .method, .arguments, .dottedClass, .method, .arguments,
        .dottedClass, .field, .dottedClass] := by
  simp only [standard, ofText?, ofText?_standard, Option.map_some, Option.get_some]
  decide +kernel

/-- **The placeholders of the template of called methods, group by group.** -/
theorem calledMethod_placeholders :
    calledMethod.placeholders = [.dottedClass, .method, .arguments] := by
  simp only [calledMethod, ofText?, ofText?_calledMethod, Option.map_some, Option.get_some]
  rfl

end Deobfuscation.Template
