import PayableLedger.Text

set_option autoImplicit false

namespace PayableLedger

/-- The identifiers hold the dots between their segments, and are empty where there is none. -/
structure Version where
  major : Nat
  minor : Nat
  patch : Nat
  preRelease : String
  build : String
deriving DecidableEq

namespace Version

def release (major minor patch : Nat) : Version := ⟨major, minor, patch, "", ""⟩

inductive Part
  | major
  | minor
  | patch
  | preRelease
  | build
deriving DecidableEq

/-- Segments of identifiers are made of ASCII letters, digits and hyphens. -/
def isSegmentChar (c : Char) : Bool := c.isAlphanum || c == '-'

def isNumeric (segment : List Char) : Bool := segment.all Char.isDigit

/-- Of two segments of different kinds the one of digits comes first. -/
def compareKinds (numbers others : List Char → List Char → Ordering) (a b : List Char) :
    Ordering :=
  match isNumeric a, isNumeric b with
  | true, true => numbers a b
  | true, false => .lt
  | false, true => .gt
  | false, false => others a b

/-- Numbers of a pre-release have no leading zeros, so the longer is the greater. -/
def comparePreReleaseSegments : List Char → List Char → Ordering :=
  compareKinds (fun a b => (compare a.length b.length).then (compare a b)) compare

/-- Numbers of build metadata may have leading zeros, which decide only between equal values. -/
def compareBuildSegments : List Char → List Char → Ordering :=
  compareKinds
    (fun a b =>
      let valueA := a.dropWhile (· == '0')
      let valueB := b.dropWhile (· == '0')
      ((compare valueA.length valueB.length).then (compare valueA valueB)).then
        (compare a.length b.length))
    compare

/-- A release comes after all its pre-releases. -/
def comparePreRelease (a b : String) : Ordering :=
  match a.isEmpty, b.isEmpty with
  | true, true => .eq
  | true, false => .gt
  | false, true => .lt
  | false, false =>
    List.compareLex comparePreReleaseSegments (a.toList.splitOn '.') (b.toList.splitOn '.')

def compareBuild (a b : String) : Ordering :=
  List.compareLex compareBuildSegments (a.toList.splitOn '.') (b.toList.splitOn '.')

protected def compare (a b : Version) : Ordering :=
  ((((compare a.major b.major).then (compare a.minor b.minor)).then
    (compare a.patch b.patch)).then
    (comparePreRelease a.preRelease b.preRelease)).then (compareBuild a.build b.build)

def isAbove (a b : Version) : Bool := a.compare b == .gt

theorem comparePreRelease_empty (identifier : String) :
    comparePreRelease identifier "" = if identifier = "" then .eq else .lt := by
  have nothing : "".isEmpty = true := rfl
  unfold comparePreRelease
  rw [nothing]
  split
  · next given _ => simp [String.isEmpty_iff.1 given]
  · next absent => cases absent
  · next given _ => rw [if_neg (by simp [← String.isEmpty_iff, given])]
  · next absent => cases absent

theorem compareBuildSegments_nil (segment : List Char) :
    compareBuildSegments segment [] = if segment = [] then .eq else .gt := by
  have digits : isNumeric [] = true := rfl
  unfold compareBuildSegments compareKinds
  rw [digits]
  cases numeric : isNumeric segment with
  | false =>
    have given : segment ≠ [] := by rintro rfl; cases numeric
    simp [given]
  | true =>
    cases segment with
    | nil => rfl
    | cons c rest =>
      simp only [List.dropWhile_nil, reduceCtorEq, if_false]
      cases value : List.dropWhile (· == '0') (c :: rest) with
      | nil =>
        have longer : compare (rest.length + 1) 0 = .gt := Nat.compare_eq_gt.2 (by omega)
        simp [longer]
      | cons d more =>
        have longer : compare (more.length + 1) 0 = .gt := Nat.compare_eq_gt.2 (by omega)
        simp [longer]

theorem compareBuild_empty (identifier : String) :
    compareBuild identifier "" = if identifier = "" then .eq else .gt := by
  have nothing : "".toList.splitOn '.' = [[]] := rfl
  unfold compareBuild
  rw [nothing]
  by_cases empty : identifier = ""
  · subst empty; decide +kernel
  · rw [if_neg empty]
    have given : identifier.toList ≠ [] := by simpa using empty
    cases parts : identifier.toList.splitOn '.' with
    | nil => exact absurd parts (List.splitOn_ne_nil _ _)
    | cons first rest =>
      cases rest with
      | cons second more =>
        simp only [List.compareLex_cons_cons, compareBuildSegments_nil]
        split <;> rfl
      | nil =>
        have whole : ['.'].intercalate (identifier.toList.splitOn '.') = identifier.toList :=
          List.intercalate_splitOn '.'
        rw [parts] at whole
        have same : first = identifier.toList := by simpa using whole
        simp [List.compareLex_cons_cons, compareBuildSegments_nil, same, given]

/-- Above a release are the versions with greater numbers, and those of its own numbers that have
build metadata and are no pre-release. -/
theorem isAbove_release {v : Version} {major minor patch : Nat} :
    v.isAbove (release major minor patch) = true ↔
      major < v.major ∨ v.major = major ∧ (minor < v.minor ∨ v.minor = minor ∧ (patch < v.patch ∨
        v.patch = patch ∧ v.preRelease = "" ∧ v.build ≠ "")) := by
  simp only [isAbove, Version.compare, release, comparePreRelease_empty, compareBuild_empty,
    beq_iff_eq, Ordering.then_eq_gt, Ordering.then_eq_eq, Nat.compare_eq_gt, Nat.compare_eq_eq]
  split <;> split <;> simp_all <;> omega

/-- Why a text is no version. The first fault decides, and the error names the part that it lies in
or behind. -/
inductive ParseError
  | emptyText
  | unexpectedEnd (part : Part)
  | unexpected (found : Char) (part : Part)
  | unexpectedAfter (found : Char) (part : Part)
  | leadingZero (part : Part)
  | tooLarge (part : Part)
  | emptySegment (part : Part)
deriving DecidableEq

def Part.name : Part → String
  | .major => "major version number"
  | .minor => "minor version number"
  | .patch => "patch version number"
  | .preRelease => "pre-release identifier"
  | .build => "build metadata"

def ParseError.message : ParseError → String
  | .emptyText => "empty string, expected a semver version"
  | .unexpectedEnd part => "unexpected end of input while parsing " ++ part.name
  | .unexpected found part =>
    "unexpected character " ++ Text.quoteChar found ++ " while parsing " ++ part.name
  | .unexpectedAfter found part =>
    "unexpected character " ++ Text.quoteChar found ++ " after " ++ part.name
  | .leadingZero part => "invalid leading zero in " ++ part.name
  | .tooLarge part => "value of " ++ part.name ++ " exceeds u64::MAX"
  | .emptySegment part => "empty identifier segment in " ++ part.name

/-- Reads the digits behind those that denote `value`, and leaves what follows them. -/
def readDigits (part : Part) (value : Nat) :
    List Char → Except ParseError (Nat × List Char)
  | [] => .ok (value, [])
  | c :: rest =>
    if c.isDigit then
      let next := 10 * value + (c.toNat - '0'.toNat)
      if value = 0 then .error (.leadingZero part)
      else if next < 0x10000000000000000 then readDigits part next rest
      else .error (.tooLarge part)
    else .ok (value, c :: rest)

def readNumber (part : Part) : List Char → Except ParseError (Nat × List Char)
  | [] => .error (.unexpectedEnd part)
  | c :: rest =>
    if c.isDigit then readDigits part (c.toNat - '0'.toNat) rest
    else .error (.unexpected c part)

def readDot (part : Part) : List Char → Except ParseError (List Char)
  | [] => .error (.unexpectedEnd part)
  | c :: rest => if c = '.' then .ok rest else .error (.unexpectedAfter c part)

/-- Numbers among the segments of a pre-release have no superfluous zeros. -/
def hasLeadingZero (segment : List Char) : Bool :=
  isNumeric segment && 1 < segment.length && segment.head? == some '0'

def checkSegment (part : Part) (segment : List Char) : Except ParseError Unit :=
  if segment = [] then .error (.emptySegment part)
  else if part = .preRelease && hasLeadingZero segment then .error (.leadingZero part)
  else .ok ()

def checkSegments (part : Part) : List (List Char) → Except ParseError Unit
  | [] => .ok ()
  | segment :: rest => do
    checkSegment part segment
    checkSegments part rest

def readIdentifier (part : Part) (text : List Char) :
    Except ParseError (List Char × List Char) := do
  let inside := fun c => isSegmentChar c || c == '.'
  let run := text.takeWhile inside
  checkSegments part (run.splitOn '.')
  return (run, text.dropWhile inside)

/-- Reads an identifier if the text goes on with the mark that announces it, and tells which part
was read last. -/
def readMarked (mark : Char) (part last : Part) :
    List Char → Except ParseError (List Char × List Char × Part)
  | [] => .ok ([], [], last)
  | c :: rest =>
    if c = mark then do
      let (identifier, rest) ← readIdentifier part rest
      return (identifier, rest, part)
    else .ok ([], c :: rest, last)

def ofChars (text : List Char) : Except ParseError Version :=
  if text = [] then .error .emptyText
  else do
    let (major, text) ← readNumber .major text
    let text ← readDot .major text
    let (minor, text) ← readNumber .minor text
    let text ← readDot .minor text
    let (patch, text) ← readNumber .patch text
    let (preRelease, text, last) ← readMarked '-' .preRelease .patch text
    let (build, text, last) ← readMarked '+' .build last text
    match text with
    | [] => return ⟨major, minor, patch, String.ofList preRelease, String.ofList build⟩
    | c :: _ => .error (.unexpectedAfter c last)

def parse (text : String) : Except ParseError Version := ofChars text.toList

end Version

end PayableLedger
