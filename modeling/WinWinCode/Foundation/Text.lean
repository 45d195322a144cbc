import Mathlib

/-!
Textual formats that storage columns must follow: prefixed Crockford identities,
canonical instants, digit strings, blank texts and semantic versions. The accepted texts are
ASCII, so a test on bytes is a test on characters. Instants of one format
compare as texts.
-/

namespace WinWinCode.Text

/-- The largest integer a JSON number carries exactly. -/
def maxSafeInteger : Nat := 9007199254740991

def isCrockford (symbol : Char) : Bool :=
  symbol.isDigit || ('A' ≤ symbol && symbol ≤ 'H') || symbol == 'J' || symbol == 'K' ||
    symbol == 'M' || symbol == 'N' || ('P' ≤ symbol && symbol ≤ 'T') ||
    ('V' ≤ symbol && symbol ≤ 'Z')

def stripPrefix (head value : String) : Option (List Char) :=
  if head.toList.isPrefixOf value.toList then some (value.toList.drop head.length) else none

/-- A literal head followed by twenty-six Crockford symbols. -/
def isCanonicalId (head value : String) : Bool :=
  match stripPrefix head value with
  | none => false
  | some suffix => suffix.length == 26 && suffix.all isCrockford

theorem length_of_isCanonicalId {head value : String} (canonical : isCanonicalId head value) :
    value.toList.length = head.length + 26 := by
  unfold isCanonicalId stripPrefix at canonical
  split at canonical
  · cases canonical
  · rename_i suffix stripped
    split at stripped
    · rw [← Option.some.inj stripped, Bool.and_eq_true, beq_iff_eq, List.length_drop] at canonical
      omega
    · cases stripped

def isDigits (symbols : List Char) : Bool := symbols.all Char.isDigit

def isLowerHex (symbol : Char) : Bool :=
  symbol.isDigit || (decide ('a' ≤ symbol) && decide (symbol ≤ 'f'))

def isWhiteSpace (symbol : Char) : Bool :=
  let code := symbol.toNat
  (9 ≤ code && code ≤ 13) || code == 0x20 || code == 0x85 || code == 0xA0 || code == 0x1680 ||
    (0x2000 ≤ code && code ≤ 0x200A) || code == 0x2028 || code == 0x2029 || code == 0x202F ||
    code == 0x205F || code == 0x3000

def isAsciiWhitespace (symbol : Char) : Bool :=
  symbol == ' ' || symbol == '\t' || symbol == '\n' || symbol == '\x0c' || symbol == '\r'

def isBlank (value : String) : Bool := value.toList.all isWhiteSpace

def trim (symbols : List Char) : List Char :=
  (symbols.dropWhile isWhiteSpace).rdropWhile isWhiteSpace

def splitOnce (mark : Char) (value : String) : Option (String × String) :=
  let head := value.toList.takeWhile (· != mark)
  match value.toList.drop head.length with
  | [] => none
  | _ :: rest => some (String.ofList head, String.ofList rest)

def utf8 (value : String) : List UInt8 := value.toList.flatMap String.utf8EncodeChar

/-- Compare with a shape in which `0` stands for any digit. -/
def hasShape : List Char → List Char → Bool
  | [], [] => true
  | mark :: shape, symbol :: rest =>
    (if mark == '0' then symbol.isDigit else symbol == mark) && hasShape shape rest
  | _, _ => false

/-- `YYYY-MM-DDThh:mm:ss.mmmZ`, without a calendar check. -/
def isCanonicalInstant (value : String) : Bool :=
  hasShape "0000-00-00T00:00:00.000Z".toList value.toList

/-- Three dotted numbers, then an optional suffix after `-` or `+`. -/
def isSemanticVersion (value : String) : Bool :=
  let symbols := value.toList
  let core := symbols.takeWhile fun symbol => symbol != '-' && symbol != '+'
  let components := core.splitOn '.'
  components.length == 3 &&
    components.all (fun component => !component.isEmpty && isDigits component) &&
    match symbols.drop core.length with
    | [] => true
    | _ :: suffix =>
      !suffix.isEmpty &&
        suffix.all fun symbol => symbol.isAlphanum || symbol == '.' || symbol == '-'

end WinWinCode.Text
