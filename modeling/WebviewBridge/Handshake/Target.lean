import WebviewBridge.Handshake

/-!
# Targets of requests

What a request may ask for: a path with a query, the same behind a scheme and an authority, or a
bare authority, of which an asterisk is one.  A number sign ends the query, and what follows it
does not count.

Main statement: the target under which a bridge is reached is well-formed, whatever the token.
-/

namespace WebviewBridge.RequestTarget

/-- Whether a character may stand in a target at all. -/
def isVisible (c : Char) : Bool := c > ' ' && c ≠ '\x7f'

/-! ## Paths and queries -/

/-- Whether a character may stand in a path. -/
def isPathChar (c : Char) : Bool := isVisible c && !"#<>?`".toList.contains c

/-- Whether a character may stand in a query. -/
def isQueryChar (c : Char) : Bool := isVisible c && !"\"#<>".toList.contains c

/-- Whether a text is a path with or without a query; either may be empty. -/
def isPathAndQuery (t : List Char) : Bool :=
  let (path, query) := Form.cut '?' (Form.cut '#' t).1
  path.all isPathChar && query.all isQueryChar

/-! ## Schemes -/

/-- Whether a character may stand in a scheme. -/
def isSchemeChar (c : Char) : Bool := c.isAlphanum || "+-.~".toList.contains c

/-- The greatest number of characters of a scheme. -/
def schemeLimit : Nat := 64

/-- What follows the scheme of a target, if it has one. -/
def afterScheme? (t : List Char) : Option (List Char) :=
  match t.span isSchemeChar with
  | (scheme, ':' :: '/' :: '/' :: rest) => if scheme.length ≤ schemeLimit then some rest else none
  | _ => none

/-! ## Authorities -/

/-- Whether a character may stand in an authority as itself. -/
def isAuthorityChar (c : Char) : Bool :=
  c.isAlphanum || "!$&'()*+,-.;=_~".toList.contains c

/-- Whether a character ends an authority. -/
def endsAuthority (c : Char) : Bool := ['/', '?', '#'].contains c

/-- What is known of an authority while it is read from the left. -/
structure AuthorityScan where
  /-- The colons since the last at sign or closing bracket. -/
  colons : Nat := 0
  /-- Whether there is a percent sign since the last at sign or closing bracket. -/
  percent : Bool := false
  opened : Bool := false
  closed : Bool := false
deriving DecidableEq, Repr

namespace AuthorityScan

/-- The greatest number of colons between two marks that end their count. -/
def colonLimit : Nat := 8

/-- Takes in a character; nothing when it may not stand there. -/
def step (a : AuthorityScan) (c : Char) : Option AuthorityScan :=
  if c = ':' then if a.colons < colonLimit then some { a with colons := a.colons + 1 } else none
  else if c = '[' then if a.percent || a.opened then none else some { a with opened := true }
  else if c = ']' then
    if a.opened && !a.closed then some { a with closed := true, colons := 0, percent := false }
    else none
  else if c = '@' then some { a with colons := 0, percent := false }
  else if c = '%' then some { a with percent := true }
  else if isAuthorityChar c then some a
  else none

/-- Whether an authority may end here: at most one colon stands before a port, and neither the name
nor the port of the machine has a percent sign. -/
def mayEnd (a : AuthorityScan) : Bool := a.colons ≤ 1 && !a.percent && a.opened == a.closed

end AuthorityScan

/-- Whether a text is an authority; it names a machine, if it is not empty. -/
def isAuthority (cs : List Char) : Bool :=
  (cs.foldlM AuthorityScan.step {}).any AuthorityScan.mayEnd && cs.getLast? ≠ some '@'

/-! ## Targets -/

/-- Whether a text may be the target of a request. -/
def isWellFormed (t : List Char) : Bool :=
  !t.isEmpty && t.all isVisible
    && if t.head? = some '/' then isPathAndQuery t
      else match afterScheme? t with
        | some rest =>
          let (authority, rest) := rest.span (!endsAuthority ·)
          !authority.isEmpty && isAuthority authority && isPathAndQuery rest
        | none => isAuthority t

/-! ## The target of a bridge -/

theorem isQueryChar_of_mem_encodeByte {b : UInt8} {c : Char} (h : c ∈ Form.encodeByte b) :
    isQueryChar c = true := by
  have all : ∀ n : Fin 256, (Form.encodeByte (UInt8.ofFin n)).all isQueryChar = true := by
    decide +kernel
  exact List.all_eq_true.1 (all b.toFin) c h

theorem isQueryChar_of_mem_encode {s : String} {c : Char} (h : c ∈ Form.encode s) :
    isQueryChar c = true := by
  obtain ⟨b, -, hc⟩ := List.mem_flatMap.1 h
  exact isQueryChar_of_mem_encodeByte hc

/-- Cutting at a character that does not occur takes everything. -/
theorem cut_of_notMem {sep : Char} {cs : List Char} (h : sep ∉ cs) :
    Form.cut sep cs = (cs, []) := by
  induction cs with
  | nil => rfl
  | cons c cs ih =>
    have hc : c ≠ sep := fun e => h (e ▸ List.mem_cons_self)
    have := ih fun hm => h (List.mem_cons_of_mem c hm)
    simp_all [Form.cut]

theorem isVisible_of_isQueryChar {c : Char} (h : isQueryChar c = true) : isVisible c = true :=
  (Bool.and_eq_true_iff.1 h).1

/-- A query of the root is well-formed if its characters may stand in a query. -/
theorem isWellFormed_root {query : List Char} (h : ∀ c ∈ query, isQueryChar c = true) :
    isWellFormed ('/' :: '?' :: query) = true := by
  have visible : ∀ c ∈ query, isVisible c = true := fun c hc => isVisible_of_isQueryChar (h c hc)
  have noSign : '#' ∉ '/' :: '?' :: query := by
    have : '#' ∉ query := fun hm => absurd (h '#' hm) (by decide)
    simpa using this
  have root : isPathChar '/' = true ∧ isVisible '/' = true ∧ isVisible '?' = true := by decide
  have whole : isPathAndQuery ('/' :: '?' :: query) = true := by
    rw [isPathAndQuery, cut_of_notMem noSign]
    simpa [Form.cut, root] using h
  simpa [isWellFormed, whole, root] using visible

/-- The target under which a bridge is reached is well-formed, whatever the token. -/
theorem isWellFormed_bridgeTarget (token : String) :
    isWellFormed (bridgeTarget token).toList = true := by
  have key : "token=".toList.all isQueryChar = true := by decide +kernel
  have e : (bridgeTarget token).toList = '/' :: '?' :: ("token=".toList ++ Form.encode token) := by
    simp [bridgeTarget, tokenParameter]
  rw [e]
  exact isWellFormed_root fun c hc =>
    (List.mem_append.1 hc).elim (List.all_eq_true.1 key c) isQueryChar_of_mem_encode

end WebviewBridge.RequestTarget
