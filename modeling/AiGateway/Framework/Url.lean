import AiGateway.Framework.Text
import Mathlib.Data.List.TakeWhile
import Mathlib.Tactic.Common

/-!
# URLs and references

The join of a base URL with a reference, up to the path: what the reference does to
the scheme, the host and the port. Neither the paths nor the queries of URLs are
modelled, since resolving them never fails and never touches the rest.

A reference may name a scheme, may name an authority behind two slashes, or may do
neither. The first characters decide, so that a reference meant as a path can name
an authority by accident. How the text of an authority is read is a parameter,
`parseAuthority`, of the functions below.

* `Url.Keeps`: what a reference names is the base's own;
* `Url.join_sameOrigin_iff`: those are exactly the references that lead to a URL
  with the scheme, the host and the port of the base.

A path-and-query and the check of its characters come last.
-/

namespace Web

/-! ### Schemes -/

/-- The schemes with rules of their own. -/
inductive SchemeType
  | file
  | specialNotFile
  | notSpecial
  deriving DecidableEq, Repr

def schemeType (scheme : List Char) : SchemeType :=
  if scheme = "file".toList then .file
  else if scheme ∈ ["http".toList, "https".toList, "ws".toList, "wss".toList, "ftp".toList] then
    .specialNotFile
  else .notSpecial

/-- A character of a scheme after its first one. -/
def schemeChar (c : Char) : Bool := c.isAlphanum || c == '+' || c == '-' || c == '.'

/-- The scheme a reference starts with, in lower case, and what follows its colon. -/
def parseScheme (reference : List Char) : Option (List Char × List Char) :=
  match reference with
  | c :: _ =>
    if c.isAlpha then
      match reference.dropWhile schemeChar with
      | ':' :: rest => some ((reference.takeWhile schemeChar).map Char.toLower, rest)
      | _ => none
    else none
  | [] => none

/-! ### Authorities -/

/-- The backslash counts as a slash where the scheme is special. -/
def isSlash (schemeType : SchemeType) (c : Char) : Bool :=
  c == '/' || (c == '\\' && decide (schemeType ≠ .notSpecial))

/-- What follows two slashes. -/
def authorityText (schemeType : SchemeType) : List Char → Option (List Char)
  | c :: d :: text => if isSlash schemeType c && isSlash schemeType d then some text else none
  | _ => none

variable {Host : Type}

/-- A URL, up to its path. One that cannot be a base has an opaque path, such as
`mailto:` has. -/
structure Url (Host : Type) where
  scheme : List Char
  host : Option Host
  port : Option ℕ
  cannotBeABase : Bool
  deriving DecidableEq

/-- The parser of an authority, given the scheme and the text after the slashes: the
host and the port; `none` is its error. -/
abbrev AuthorityParser (Host : Type) := List Char → List Char → Option (Option Host × Option ℕ)

namespace Url

/-- The URL of a scheme and the text of an authority. -/
def ofAuthority (parseAuthority : AuthorityParser Host) (scheme text : List Char) :
    Option (Url Host) :=
  (parseAuthority scheme text).map fun authority =>
    ⟨scheme, authority.1, authority.2, false⟩

/-! ### Joining -/

/-- A reference that names no scheme, or the base's own one without an authority. -/
def joinRelative (parseAuthority : AuthorityParser Host) (base : Url Host)
    (reference : List Char) : Option (Url Host) :=
  match authorityText (schemeType base.scheme) reference with
  | some text => ofAuthority parseAuthority base.scheme text
  | none => some base

/-- A reference that names a scheme; `rest` is what follows the colon. -/
def joinAbsolute (parseAuthority : AuthorityParser Host) (base : Url Host)
    (scheme rest : List Char) : Option (Url Host) :=
  match schemeType scheme with
  | .file =>
    match authorityText .file rest with
    | some text => ofAuthority parseAuthority scheme text
    | none => some (if scheme = base.scheme then base else ⟨scheme, none, none, false⟩)
  | .specialNotFile =>
    -- fewer than two slashes after the base's own scheme name no authority
    if scheme = base.scheme ∧ authorityText .specialNotFile rest = none then some base
    else ofAuthority parseAuthority scheme (rest.dropWhile (isSlash .specialNotFile))
  | .notSpecial =>
    match authorityText .notSpecial rest with
    | some text => ofAuthority parseAuthority scheme text
    | none => some ⟨scheme, none, none, decide (rest.head? ≠ some '/')⟩

/-- `Url::join`. `none` is its error. -/
def join (parseAuthority : AuthorityParser Host) (base : Url Host) (reference : List Char) :
    Option (Url Host) :=
  match parseScheme reference with
  | some (scheme, rest) => joinAbsolute parseAuthority base scheme rest
  | none =>
    if reference.head? = some '#' then some base
    else if base.cannotBeABase then none
    else joinRelative parseAuthority base reference

/-! ### References that keep the origin -/

/-- The same scheme, host and port. -/
def SameOrigin (url base : Url Host) : Prop :=
  url.scheme = base.scheme ∧ url.host = base.host ∧ url.port = base.port

/-- The text is read as the authority of the URL itself. -/
def OwnAuthority (parseAuthority : AuthorityParser Host) (base : Url Host) (text : List Char) :
    Prop :=
  parseAuthority base.scheme text = some (base.host, base.port)

/-- What follows the base's own scheme names no other authority. Outside the special
schemes, a reference without an authority has no host. -/
def KeepsAfterScheme (parseAuthority : AuthorityParser Host) (base : Url Host)
    (rest : List Char) : Prop :=
  match schemeType base.scheme with
  | .file => ∀ text, authorityText .file rest = some text → OwnAuthority parseAuthority base text
  | .specialNotFile => authorityText .specialNotFile rest = none ∨
      OwnAuthority parseAuthority base (rest.dropWhile (isSlash .specialNotFile))
  | .notSpecial =>
    match authorityText .notSpecial rest with
    | some text => OwnAuthority parseAuthority base text
    | none => base.host = none ∧ base.port = none

/-- **A reference that keeps the origin**: it names no scheme but the base's own, no
authority but the base's own, and one without a scheme has a base to start from. -/
def Keeps (parseAuthority : AuthorityParser Host) (base : Url Host) (reference : List Char) :
    Prop :=
  match parseScheme reference with
  | some (scheme, rest) => scheme = base.scheme ∧ KeepsAfterScheme parseAuthority base rest
  | none => reference.head? = some '#' ∨ base.cannotBeABase = false ∧
      ∀ text, authorityText (schemeType base.scheme) reference = some text →
        OwnAuthority parseAuthority base text

theorem SameOrigin.refl (base : Url Host) : SameOrigin base base := ⟨rfl, rfl, rfl⟩

/-- The join gives a URL, and it has the origin of the base. -/
def Confined (base : Url Host) (target : Option (Url Host)) : Prop :=
  ∃ url, target = some url ∧ url.SameOrigin base

theorem confined_some {base url : Url Host} : Confined base (some url) ↔ url.SameOrigin base := by
  constructor
  · rintro ⟨url', h, hsame⟩
    obtain rfl := Option.some.inj h
    exact hsame
  · exact fun h => ⟨url, rfl, h⟩

theorem not_confined_none {base : Url Host} : ¬ Confined base none := by
  rintro ⟨url, h, -⟩
  cases h

/-- The URL of an authority has the origin of the base exactly when scheme and
authority are the base's own. -/
theorem confined_ofAuthority {parseAuthority : AuthorityParser Host} {base : Url Host}
    {scheme text : List Char} :
    Confined base (ofAuthority parseAuthority scheme text) ↔
      scheme = base.scheme ∧ OwnAuthority parseAuthority base text := by
  unfold ofAuthority OwnAuthority
  constructor
  · rintro ⟨url, h, hscheme, hhost, hport⟩
    obtain ⟨authority, hparse, rfl⟩ := Option.map_eq_some_iff.mp h
    have hscheme' : scheme = base.scheme := hscheme
    have hown : authority = (base.host, base.port) := Prod.ext hhost hport
    rw [← hown, ← hscheme']
    exact ⟨rfl, hparse⟩
  · rintro ⟨rfl, hparse⟩
    rw [hparse]
    exact confined_some.mpr ⟨rfl, rfl, rfl⟩

theorem confined_joinRelative {parseAuthority : AuthorityParser Host} {base : Url Host}
    {reference : List Char} :
    Confined base (joinRelative parseAuthority base reference) ↔
      ∀ text, authorityText (schemeType base.scheme) reference = some text →
        OwnAuthority parseAuthority base text := by
  unfold joinRelative
  cases htext : authorityText (schemeType base.scheme) reference with
  | none => exact iff_of_true (confined_some.mpr (SameOrigin.refl base)) fun _ h => by cases h
  | some text =>
    rw [confined_ofAuthority, and_iff_right rfl]
    constructor
    · intro hown text' h
      rwa [← Option.some.inj h]
    · exact fun h => h text rfl

/-- A named scheme other than the base's is never given up. -/
theorem scheme_of_joinAbsolute {parseAuthority : AuthorityParser Host} {base url : Url Host}
    {scheme rest : List Char} (h : joinAbsolute parseAuthority base scheme rest = some url) :
    url.scheme = scheme := by
  have hauthority : ∀ text, ofAuthority parseAuthority scheme text = some url →
      url.scheme = scheme := by
    intro text h
    obtain ⟨authority, -, rfl⟩ := Option.map_eq_some_iff.mp h
    rfl
  unfold joinAbsolute at h
  split at h
  · split at h
    · exact hauthority _ h
    -- the base itself is returned under its own scheme only
    · obtain rfl := Option.some.inj h
      split
      · next heq => exact heq.symm
      · rfl
  · split at h
    · next heq =>
      obtain rfl := Option.some.inj h
      exact heq.1.symm
    · exact hauthority _ h
  · split at h
    · exact hauthority _ h
    · obtain rfl := Option.some.inj h
      rfl

theorem confined_joinAbsolute {parseAuthority : AuthorityParser Host} {base : Url Host}
    {scheme rest : List Char} :
    Confined base (joinAbsolute parseAuthority base scheme rest) ↔
      scheme = base.scheme ∧ KeepsAfterScheme parseAuthority base rest := by
  -- under the base's own scheme, the type of the scheme decides what is an authority
  by_cases hscheme : scheme = base.scheme
  · subst hscheme
    rw [and_iff_right rfl]
    unfold joinAbsolute KeepsAfterScheme
    cases schemeType base.scheme with
    | file =>
      dsimp only
      cases authorityText .file rest with
      | none =>
        -- a file without an authority starts from the base
        rw [if_pos rfl]
        exact iff_of_true (confined_some.mpr (SameOrigin.refl base)) fun _ h => by cases h
      | some text =>
        rw [confined_ofAuthority, and_iff_right rfl]
        exact ⟨fun hown text' h => Option.some.inj h ▸ hown, fun h => h text rfl⟩
    | specialNotFile =>
      dsimp only
      by_cases hrest : authorityText .specialNotFile rest = none
      -- a special scheme without an authority is a relative reference in disguise
      · rw [if_pos ⟨rfl, hrest⟩]
        exact iff_of_true (confined_some.mpr (SameOrigin.refl base)) (Or.inl hrest)
      · rw [if_neg fun h => hrest h.2, confined_ofAuthority, and_iff_right rfl, or_iff_right hrest]
    | notSpecial =>
      dsimp only
      cases authorityText .notSpecial rest with
      | none =>
        -- any other scheme without an authority has no host, so the base must have none
        rw [confined_some]
        constructor
        · rintro ⟨-, hhost, hport⟩
          exact ⟨hhost.symm, hport.symm⟩
        · rintro ⟨hhost, hport⟩
          exact ⟨rfl, hhost.symm, hport.symm⟩
      | some text => rw [confined_ofAuthority, and_iff_right rfl]
  -- another scheme is never given up for the base's own
  · refine iff_of_false ?_ fun h => hscheme h.1
    rintro ⟨url, h, hsame, -⟩
    exact hscheme ((scheme_of_joinAbsolute h).symm.trans hsame)

/-- **References that keep the origin.** Joining one leads to a URL of the same
scheme, host and port, and joining any other fails or leads elsewhere. -/
theorem join_sameOrigin_iff (parseAuthority : AuthorityParser Host) (base : Url Host)
    (reference : List Char) :
    Confined base (base.join parseAuthority reference) ↔ base.Keeps parseAuthority reference := by
  unfold join Keeps
  cases parseScheme reference with
  | some named => exact confined_joinAbsolute
  | none =>
    dsimp only
    by_cases hhash : reference.head? = some '#'
    -- a fragment alone is joined with any base
    · rw [if_pos hhash]
      exact iff_of_true (confined_some.mpr (SameOrigin.refl base)) (Or.inl hhash)
    · rw [if_neg hhash, or_iff_right hhash]
      cases base.cannotBeABase with
      | true => exact iff_of_false not_confined_none fun h => by cases h.1
      | false =>
        rw [if_neg Bool.false_ne_true, and_iff_right rfl]
        exact confined_joinRelative

end Url

/-! ### The path and query of a request -/

/-- The characters the path of a request may have. -/
def pathChar (c : Char) : Bool :=
  let n := c.toNat
  n == 0x21 || n == 0x22 || (0x24 ≤ n && n ≤ 0x3B) || n == 0x3D || (0x40 ≤ n && n ≤ 0x5F) ||
    (0x61 ≤ n && n ≤ 0x7E) || 0x7F ≤ n

/-- The characters its query may have. -/
def queryChar (c : Char) : Bool :=
  let n := c.toNat
  n == 0x21 || (0x24 ≤ n && n ≤ 0x3B) || n == 0x3D || 0x3F ≤ n

/-- A path and query, as text. -/
structure PathAndQuery where
  data : List Char
  deriving DecidableEq

namespace PathAndQuery

/-- `FromStr`: a fragment is cut off, and the path and the query are checked. Neither
a leading slash is asked for nor repeated ones are refused. -/
def fromStr (text : List Char) : Option PathAndQuery :=
  let data := text.takeWhile (· ≠ '#')
  if (data.takeWhile (· ≠ '?')).all pathChar ∧
      ((data.dropWhile (· ≠ '?')).drop 1).all queryChar then
    some ⟨data⟩
  else none

/-- `as_str`: the empty one is written as the root. -/
def asStr (pq : PathAndQuery) : List Char := if pq.data.isEmpty then ['/'] else pq.data

/-- `path`: what stands before the query, or the root. -/
def path (pq : PathAndQuery) : List Char :=
  let path := pq.data.takeWhile (· ≠ '?')
  if path.isEmpty then ['/'] else path

/-- `query`: what stands behind the first question mark. -/
def query (pq : PathAndQuery) : Option (List Char) := (pq.data.dropWhile (· ≠ '?')).tail?

/-- What the parser leaves of a text, if it takes it. -/
theorem eq_of_fromStr {text : List Char} {pq : PathAndQuery} (h : fromStr text = some pq) :
    pq.data = text.takeWhile (· ≠ '#') ∧
      ((pq.data.dropWhile (· ≠ '?')).drop 1).all queryChar = true := by
  unfold fromStr at h
  dsimp only at h
  split at h
  · next hchars =>
    obtain rfl := Option.some.inj h
    exact ⟨rfl, hchars.2⟩
  · cases h

/-- The query is of the permitted characters. -/
theorem query_of_fromStr {text : List Char} {pq : PathAndQuery} (h : fromStr text = some pq) :
    ∀ q ∈ pq.query, q.all queryChar = true := by
  intro q hq
  obtain ⟨-, hquery⟩ := eq_of_fromStr h
  unfold query at hq
  cases hdrop : pq.data.dropWhile (· ≠ '?') with
  | nil =>
    rw [hdrop] at hq
    cases hq
  | cons c rest =>
    rw [hdrop] at hq hquery
    cases hq
    exact hquery

end PathAndQuery

/-- **A text put between others, and cut.** What is left is what another text would leave, if it
is that text, or the cut comes where the other text would have ended. -/
theorem takeWhile_append_eq_iff {c : Char} {before after s t : List Char} (hbefore : c ∉ before)
    (hafter : c ∉ after) (ht : c ∉ t) :
    (before ++ (s ++ after)).takeWhile (· ≠ c) = before ++ (t ++ after) ↔
      s = t ∨ ∃ rest, s = t ++ (after ++ c :: rest) := by
  have hkept : ∀ {l : List Char}, c ∉ l → ∀ d ∈ l, decide (d ≠ c) = true :=
    fun hl d hd => decide_eq_true fun heq => hl (heq ▸ hd)
  -- the cut comes at the first such character
  have hcut : ∀ {l : List Char} (rest : List Char), c ∉ l →
      (l ++ c :: rest).takeWhile (· ≠ c) = l := by
    intro l rest hl
    rw [List.takeWhile_append_of_pos (hkept hl), List.takeWhile_cons_of_neg (by simp),
      List.append_nil]
  have htafter : c ∉ t ++ after := fun hmem => (List.mem_append.mp hmem).elim ht hafter
  by_cases hs : c ∈ s
  · -- the cut is inside the text
    obtain ⟨s₁, rest, rfl, hs₁⟩ := List.eq_append_cons_of_mem hs
    have hne : s₁ ++ c :: rest ≠ t := fun heq => ht (heq ▸ hs)
    have hleft : (before ++ (s₁ ++ c :: rest ++ after)).takeWhile (· ≠ c) = before ++ s₁ := by
      rw [List.append_assoc, List.cons_append, ← List.append_assoc]
      exact hcut _ fun hmem => (List.mem_append.mp hmem).elim hbefore hs₁
    rw [hleft, List.append_cancel_left_eq, or_iff_right hne]
    constructor
    · rintro rfl
      exact ⟨rest, List.append_assoc t after (c :: rest)⟩
    · rintro ⟨rest', heq⟩
      rw [← List.append_assoc] at heq
      rw [← hcut rest hs₁, heq, hcut rest' htafter]
  · -- there is nothing to cut
    have hall : c ∉ before ++ (s ++ after) := by
      simp only [List.mem_append, not_or]
      exact ⟨hbefore, hs, hafter⟩
    rw [List.takeWhile_eq_self_iff.mpr (hkept hall), List.append_cancel_left_eq,
      List.append_cancel_right_eq]
    refine ⟨Or.inl, fun h => h.resolve_right ?_⟩
    rintro ⟨rest, rfl⟩
    exact hs (by simp)

/-- The path and the query of a request's URI, which its parser has checked. -/
structure RequestUri where
  path : List Char
  query : Option (List Char)
  path_ok : path.all pathChar
  query_ok : ∀ q ∈ query, q.all queryChar

/-- Without a query there is nothing to check. -/
theorem RequestUri.query_ok_none : ∀ q ∈ (none : Option (List Char)), q.all queryChar := by
  simp

end Web
