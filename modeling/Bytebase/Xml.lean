import Bytebase.Go.Basic

/-!
# Xml — well-formed documents

What "well-formed XML" means, for the GitLab report: XML 1.0 (fifth
edition) documents without a document type declaration, recognised by a
recursive descent over the runes. Each production is the function named
after it, with the production's number; it consumes a prefix of the
input and hands back the rest, or says what is wrong there. The
well-formedness constraints that apply without a DTD are checked where
they arise: element type match, unique attribute names, no `<` in
attribute values, legal character references, and entity references only
to the five predefined entities.

Nesting is bounded by `fuel`; every step consumes a rune, so the length of
the input is enough, and running out is its own error (`XmlError.fuel`),
never a verdict about the document.
-/

namespace Bytebase.Xml

/-- Why a document was refused. -/
inductive XmlError where
  | malformed (what : String)
  | fuel
  deriving DecidableEq, Repr

/-! ## Characters -/

/-- [2] `Char`, on a code point. -/
def isCharCode (n : Nat) : Bool :=
  n = 0x9 || n = 0xA || n = 0xD || (0x20 ≤ n && n ≤ 0xD7FF) || (0xE000 ≤ n && n ≤ 0xFFFD) ||
    (0x10000 ≤ n && n ≤ 0x10FFFF)

/-- [3] a rune of `S`. -/
def isSpace (c : Char) : Bool := c = ' ' || c = '\t' || c = '\r' || c = '\n'

/-- [4] `NameStartChar`. -/
def isNameStartChar (c : Char) : Bool :=
  let n := c.toNat
  c = ':' || c = '_' || ('A' ≤ c && c ≤ 'Z') || ('a' ≤ c && c ≤ 'z') || (0xC0 ≤ n && n ≤ 0xD6) ||
    (0xD8 ≤ n && n ≤ 0xF6) || (0xF8 ≤ n && n ≤ 0x2FF) || (0x370 ≤ n && n ≤ 0x37D) ||
    (0x37F ≤ n && n ≤ 0x1FFF) || (0x200C ≤ n && n ≤ 0x200D) || (0x2070 ≤ n && n ≤ 0x218F) ||
    (0x2C00 ≤ n && n ≤ 0x2FEF) || (0x3001 ≤ n && n ≤ 0xD7FF) || (0xF900 ≤ n && n ≤ 0xFDCF) ||
    (0xFDF0 ≤ n && n ≤ 0xFFFD) || (0x10000 ≤ n && n ≤ 0xEFFFF)

/-- [4a] `NameChar`. -/
def isNameChar (c : Char) : Bool :=
  let n := c.toNat
  isNameStartChar c || c = '-' || c = '.' || ('0' ≤ c && c ≤ '9') || n = 0xB7 ||
    (0x300 ≤ n && n ≤ 0x36F) || (0x203F ≤ n && n ≤ 0x2040)

/-- A decimal digit. -/
def isDigit (c : Char) : Bool := '0' ≤ c && c ≤ '9'

/-- A hexadecimal digit. -/
def isHexDigit (c : Char) : Bool := isDigit c || ('a' ≤ c && c ≤ 'f') || ('A' ≤ c && c ≤ 'F')

/-- The value of a digit in base 16 (and so in base 10). -/
def digitValue (c : Char) : Nat :=
  if isDigit c then c.toNat - '0'.toNat
  else if 'a' ≤ c && c ≤ 'f' then c.toNat - 'a'.toNat + 10
  else c.toNat - 'A'.toNat + 10

/-! ## Names, spaces and references -/

/-- The input after a literal, if it starts with it. -/
def literal (lit : List Char) (what : String) (s : List Char) : Except XmlError (List Char) :=
  if lit.isPrefixOf s then .ok (s.drop lit.length) else .error (.malformed what)

/-- [5] `Name`: the name and the rest. -/
def name : List Char → Except XmlError (List Char × List Char)
  | c :: cs => if isNameStartChar c then .ok (c :: cs.takeWhile isNameChar, cs.dropWhile isNameChar)
    else .error (.malformed "name")
  | [] => .error (.malformed "name")

/-- `S?`. -/
def skipSpace (s : List Char) : List Char := s.dropWhile isSpace

/-- [3] `S`. -/
def space : List Char → Except XmlError (List Char)
  | c :: cs => if isSpace c then .ok (skipSpace cs) else .error (.malformed "space")
  | [] => .error (.malformed "space")

/-- [25] `Eq`. -/
def eqSign (s : List Char) : Except XmlError (List Char) :=
  match skipSpace s with
  | '=' :: r => .ok (skipSpace r)
  | _ => .error (.malformed "=")

/-- The five entities an XML processor knows without a DTD. -/
def predefinedEntities : List (List Char) := ["lt".toList, "gt".toList, "amp".toList, "apos".toList, "quot".toList]

/-- [66] `CharRef` after its `&#`, in base `base` with its digits: the digits
name a legal character. -/
def charRef (base : Nat) (digit : Char → Bool) (s : List Char) : Except XmlError (List Char) :=
  let ds := s.takeWhile digit
  match s.dropWhile digit with
  | ';' :: r =>
    if !ds.isEmpty && isCharCode (ds.foldl (fun v d => v * base + digitValue d) 0) then .ok r
    else .error (.malformed "character reference")
  | _ => .error (.malformed "character reference")

/-- [67] `Reference`, after its `&`: a legal character reference, or a
reference to a predefined entity (the entity-declared constraint). -/
def reference (s : List Char) : Except XmlError (List Char) :=
  match s with
  | '#' :: 'x' :: r => charRef 16 isHexDigit r
  | '#' :: r => charRef 10 isDigit r
  | _ => do
    let (n, r) ← name s
    match r with
    | ';' :: r => if n ∈ predefinedEntities then .ok r else .error (.malformed "undeclared entity")
    | _ => .error (.malformed "entity reference")

/-! ## Markup without nesting -/

/-- [15] the rest of a `Comment` after `<!--`: no `--` inside. -/
def commentBody : List Char → Except XmlError (List Char)
  | '-' :: '-' :: '>' :: r => .ok r
  | '-' :: '-' :: _ => .error (.malformed "-- in comment")
  | _ :: r => commentBody r
  | [] => .error (.malformed "unclosed comment")

/-- [20]–[21] the rest of a `CDSect` after `<![CDATA[`. -/
def cdataBody : List Char → Except XmlError (List Char)
  | ']' :: ']' :: '>' :: r => .ok r
  | _ :: r => cdataBody r
  | [] => .error (.malformed "unclosed CDATA section")

/-- The body of a processing instruction, up to its `?>`. -/
def piBody : List Char → Except XmlError (List Char)
  | '?' :: '>' :: r => .ok r
  | _ :: r => piBody r
  | [] => .error (.malformed "unclosed processing instruction")

/-- [16]–[17] the rest of a `PI` after `<?`: its target is not `xml` in
any case. -/
def pi (s : List Char) : Except XmlError (List Char) := do
  let (target, r) ← name s
  if target.map Char.toLower = "xml".toList then .error (.malformed "reserved target") else
  match r with
  | '?' :: '>' :: r => .ok r
  | _ => space r >>= piBody

/-- [10] the rest of an `AttValue` after its opening quote `q`. -/
def attValueChars (q : Char) : Nat → List Char → Except XmlError (List Char)
  | 0, _ => .error .fuel
  | _ + 1, [] => .error (.malformed "unclosed attribute value")
  | fuel + 1, c :: cs =>
    if c = q then .ok cs
    else if c = '<' then .error (.malformed "< in attribute value")
    else if c = '&' then reference cs >>= attValueChars q fuel
    else attValueChars q fuel cs

/-- [10] `AttValue`. -/
def attValue (fuel : Nat) : List Char → Except XmlError (List Char)
  | '"' :: r => attValueChars '"' fuel r
  | '\'' :: r => attValueChars '\'' fuel r
  | _ => .error (.malformed "attribute value")

/-- [40], [41], [44] the attributes of a tag and its end: the rest and
whether the tag was empty (`/>`). Names already used are `seen`. -/
def attributes (seen : List (List Char)) : Nat → List Char → Except XmlError (List Char × Bool)
  | 0, _ => .error .fuel
  | fuel + 1, s =>
    match skipSpace s with
    | '>' :: r => .ok (r, false)
    | '/' :: '>' :: r => .ok (r, true)
    | r => do
      if r.length = s.length then .error (.malformed "space before attribute") else
      let (n, r) ← name r
      if n ∈ seen then .error (.malformed "duplicate attribute") else
      let r ← eqSign r >>= attValue fuel
      attributes (n :: seen) fuel r

/-- [40], [44] a start tag or an empty-element tag after its `<`: the
element's name, whether it is empty, and the rest. -/
def startTag (fuel : Nat) (s : List Char) : Except XmlError (List Char × Bool × List Char) := do
  let (n, r) ← name s
  let (r, empty) ← attributes [] fuel r
  return (n, empty, r)

/-- [42] an end tag for the element `n` (element type match). -/
def endTag (n : List Char) (s : List Char) : Except XmlError (List Char) := do
  let r ← literal "</".toList "end tag" s
  let (m, r) ← name r
  if m ≠ n then .error (.malformed "element type mismatch") else
  match skipSpace r with
  | '>' :: r => .ok r
  | _ => .error (.malformed "end tag")

/-! ## Elements -/

/-- [43] `content`, up to the end tag that closes it, with `child` for
the elements it contains. -/
def content (child : List Char → Except XmlError (List Char)) : Nat → List Char → Except XmlError (List Char)
  | 0, _ => .error .fuel
  | fuel + 1, s =>
    match s with
    | '<' :: '/' :: _ => .ok s
    | '<' :: '!' :: '-' :: '-' :: r => commentBody r >>= content child fuel
    | '<' :: '!' :: '[' :: 'C' :: 'D' :: 'A' :: 'T' :: 'A' :: '[' :: r => cdataBody r >>= content child fuel
    | '<' :: '?' :: r => pi r >>= content child fuel
    | '<' :: r => child r >>= content child fuel
    | '&' :: r => reference r >>= content child fuel
    | ']' :: ']' :: '>' :: _ => .error (.malformed "]]> in character data")
    | _ :: r => content child fuel r
    | [] => .error (.malformed "unclosed element")

/-- [39] `element`, after its `<`. -/
def element : Nat → List Char → Except XmlError (List Char)
  | 0, _ => .error .fuel
  | fuel + 1, s => do
    let (n, empty, r) ← startTag fuel s
    if empty then return r
    let r ← content (element fuel) fuel r
    endTag n r

/-! ## Documents -/

/-- [27] `Misc*`. -/
def miscs : Nat → List Char → Except XmlError (List Char)
  | 0, _ => .error .fuel
  | fuel + 1, s =>
    match s with
    | '<' :: '!' :: '-' :: '-' :: r => commentBody r >>= miscs fuel
    | '<' :: '?' :: r => pi r >>= miscs fuel
    | c :: r => if isSpace c then miscs fuel r else .ok s
    | [] => .ok []

/-- A quoted value whose runes satisfy `ok`, as in [24], [80] and [32]. -/
def quoted (ok : List Char → Bool) (what : String) : List Char → Except XmlError (List Char)
  | q :: r =>
    if q = '"' || q = '\'' then
      let v := r.takeWhile (· ≠ q)
      match r.dropWhile (· ≠ q) with
      | _ :: r => if ok v then .ok r else .error (.malformed what)
      | [] => .error (.malformed what)
    else .error (.malformed what)
  | [] => .error (.malformed what)

/-- [26] `VersionNum`. -/
def isVersionNum (v : List Char) : Bool :=
  match v with
  | '1' :: '.' :: ds => !ds.isEmpty && ds.all isDigit
  | _ => false

/-- [81] `EncName`. -/
def isEncName : List Char → Bool
  | c :: cs => (('A' ≤ c && c ≤ 'Z') || ('a' ≤ c && c ≤ 'z')) &&
    cs.all fun d => isDigit d || ('A' ≤ d && d ≤ 'Z') || ('a' ≤ d && d ≤ 'z') || d = '.' || d = '_' || d = '-'
  | [] => false

/-- An optional declaration `S key Eq value` of the XML declaration. -/
def optionalDecl (key : String) (ok : List Char → Bool) (s : List Char) : Except XmlError (List Char) :=
  let r := skipSpace s
  if r.length < s.length && key.toList.isPrefixOf r then
    eqSign (r.drop key.length) >>= quoted ok key
  else .ok s

/-- [23] the rest of an `XMLDecl` after `<?xml`. -/
def xmlDecl (s : List Char) : Except XmlError (List Char) := do
  let r ← space s >>= literal "version".toList "version" >>= eqSign >>= quoted isVersionNum "version"
  let r ← optionalDecl "encoding" isEncName r
  let r ← optionalDecl "standalone" (fun v => v = "yes".toList || v = "no".toList) r
  literal "?>".toList "XML declaration" (skipSpace r)

/-- [1], [22] `document`, for a document with no document type
declaration: every rune a `Char`, an optional XML declaration, `Misc*`,
one element, `Misc*`. -/
def document (doc : List Char) : Except XmlError Unit := do
  if !doc.all fun c => isCharCode c.toNat then .error (.malformed "character") else
  let fuel := doc.length + 1
  let r ← match doc with
    | '<' :: '?' :: 'x' :: 'm' :: 'l' :: c :: r => if isSpace c then xmlDecl (c :: r) else .ok doc
    | _ => .ok doc
  let r ← miscs fuel r
  let r ← match r with
    | '<' :: r => element fuel r
    | _ => .error (.malformed "root element")
  let r ← miscs fuel r
  if r.isEmpty then .ok () else .error (.malformed "content after the root element")

/-- A string is a well-formed XML document. -/
def WellFormed (doc : String) : Prop := document doc.toList = .ok ()

instance : DecidablePred WellFormed := fun doc => inferInstanceAs (Decidable (document doc.toList = .ok ()))

example : WellFormed "<?xml version=\"1.0\"?>\n<a x='1'><b/>t &amp; &#x41;<!-- c --></a>" ∧
    WellFormed "<?xml-stylesheet href='s'?><a/>" ∧
    document "<a><b></a></b>".toList = .error (.malformed "element type mismatch") ∧
    document "<a x='1' x='2'/>".toList = .error (.malformed "duplicate attribute") := by decide

end Bytebase.Xml
