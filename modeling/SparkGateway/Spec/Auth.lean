import SparkGateway.Lib.Trim
import SparkGateway.Spec.Grpc

/-!
# `SparkGateway.Spec.Auth`: bearer tokens and the static token table

`crates/auth/src/lib.rs`, `bearer_token`, and `crates/auth/src/token.rs`. The credential of a
request is the text after `Bearer ` in the `authorization` header. `StaticTokenAuthenticator`
looks it up in a table that is built once from the configuration.

Rust's slices count bytes, and a slice that cuts through a character panics. `get(..n)` is
`getTo`, which returns `none` there, and `&s[n..]` is `indexFrom`, which panics. The table is a
`HashMap`, so it iterates in an order of its own. `TokenTable` has its rows in some order and the
proof that their tokens differ, and an `Iteration` is any other order.
-/

set_option autoImplicit false

namespace SparkGateway.Spec

open Lib

/-! ### Text -/

/-- `char::is_whitespace`: the Unicode property `White_Space`. -/
def isWhitespace (c : Char) : Bool :=
  let n := c.toNat
  (9 ≤ n && n ≤ 13) || n == 32 || n == 0x85 || n == 0xA0 || n == 0x1680 ||
    (0x2000 ≤ n && n ≤ 0x200A) || n == 0x2028 || n == 0x2029 || n == 0x202F || n == 0x205F ||
    n == 0x3000

/-- `str::trim`. -/
def trimText (s : String) : String := String.ofList (trim isWhitespace s.toList)

/-- The text cut after `n` bytes, if there is a character boundary. -/
def splitBytes : ℕ → List Char → Option (List Char × List Char)
  | 0, cs => some ([], cs)
  | _ + 1, [] => none
  | n + 1, c :: cs =>
    if c.utf8Size ≤ n + 1 then
      (splitBytes (n + 1 - c.utf8Size) cs).map fun (before, rest) => (c :: before, rest)
    else none

/-- `s.get(..n)`. -/
def getTo (s : String) (n : ℕ) : Option String :=
  (splitBytes n s.toList).map fun parts => String.ofList parts.1

/-- `str::eq_ignore_ascii_case`. -/
def eqIgnoreAsciiCase (a b : String) : Bool :=
  a.toList.map Char.toLower == b.toList.map Char.toLower

/-! ### The credential -/

/-- How a call of an authenticator fails: with a status, or by a panic. -/
inductive AuthFailure where
  | refused (status : Status)
  | panicked
deriving DecidableEq, Repr

/-- `&s[n..]`. -/
def indexFrom (s : String) (n : ℕ) : Except AuthFailure String :=
  match splitBytes n s.toList with
  | some parts => .ok (String.ofList parts.2)
  | none => .error .panicked

/-- `bearer_token`. -/
def bearerToken (metadata : MetadataMap) : Except AuthFailure (Option String) :=
  match (metadata "authorization").bind MetadataValue.toStr with
  | none => .ok none
  | some raw =>
    let trimmed := trimText raw
    match getTo trimmed 7 with
    | none => .ok none
    | some lowerPrefix =>
      if eqIgnoreAsciiCase lowerPrefix "Bearer " then
        (indexFrom trimmed 7).map fun rest => some (trimText rest)
      else .ok none

/-- The credential, or the status that every authenticator refuses a request without one with. -/
def requireToken (metadata : MetadataMap) : Except AuthFailure String := do
  match ← bearerToken metadata with
  | some token => pure token
  | none =>
    throw (.refused
      (Status.unauthenticated "missing or malformed Authorization: Bearer header"))

/-! ### The static token table -/

/-- `TokenEntry`: one configured token and the identity it stands for. -/
structure TokenEntry where
  token : String
  userId : String
  tenant : Option String
  groups : List String
deriving DecidableEq, Repr

/-- `StaticTokenError`: no entries, or two with one token. -/
inductive StaticTokenError where
  | empty
  | duplicate (token : String)
deriving DecidableEq, Repr

/-- What becomes an `Identity` on a hit. -/
structure IdentityTemplate where
  userId : String
  tenant : Option String
  groups : List String
deriving DecidableEq, Repr

/-- The identity an entry's token stands for. -/
def TokenEntry.template (e : TokenEntry) : IdentityTemplate := ⟨e.userId, e.tenant, e.groups⟩

/-- `HashMap<String, IdentityTemplate>`. -/
structure TokenTable where
  rows : List (String × IdentityTemplate)
  nodup : (rows.map Prod.fst).Nodup

namespace TokenTable

/-- The table before the first entry. -/
def empty : TokenTable := ⟨[], List.nodup_nil⟩

/-- `contains_key`. -/
def containsKey (table : TokenTable) (token : String) : Bool :=
  decide (token ∈ table.rows.map Prod.fst)

/-- `insert` of a token that is not there yet. -/
def insert (table : TokenTable) (token : String) (template : IdentityTemplate)
    (h : ¬ table.containsKey token) : TokenTable where
  rows := (token, template) :: table.rows
  nodup := List.nodup_cons.mpr ⟨by simpa [containsKey] using h, table.nodup⟩

/-- An order in which the map may iterate. -/
def Iteration (table : TokenTable) : Type :=
  { order : List (String × IdentityTemplate) // order.Perm table.rows }

end TokenTable

/-- `StaticTokenAuthenticator`: a fixed table of tokens. -/
structure StaticTokenAuthenticator where
  inner : TokenTable

namespace StaticTokenAuthenticator

/-- The loop of `new`. -/
def insertAll (table : TokenTable) : List TokenEntry → Except StaticTokenError TokenTable
  | [] => .ok table
  | e :: entries =>
    if h : table.containsKey e.token then .error (.duplicate e.token)
    else insertAll (table.insert e.token e.template h) entries

/-- `StaticTokenAuthenticator::new`: some entries, and no token twice. -/
def new (entries : List TokenEntry) : Except StaticTokenError StaticTokenAuthenticator :=
  if entries.isEmpty then .error .empty
  else (insertAll TokenTable.empty entries).map StaticTokenAuthenticator.mk

/-- `lookup`: all rows are compared, as bytes, and the last match is kept. -/
def lookup (order : List (String × IdentityTemplate)) (presented : String) :
    Option IdentityTemplate :=
  order.foldl
    (fun found row =>
      if row.1.toByteArray.data = presented.toByteArray.data then some row.2 else found) none

/-- `authenticate`, with the order in which the table iterates at the time. -/
def authenticate (auth : StaticTokenAuthenticator) (iteration : auth.inner.Iteration)
    (metadata : MetadataMap) : Except AuthFailure Identity := do
  let token ← requireToken metadata
  match lookup iteration.1 token with
  | some tmpl => pure ⟨tmpl.userId, tmpl.tenant, tmpl.groups⟩
  | none => throw (.refused (Status.unauthenticated "invalid token"))

end StaticTokenAuthenticator

end SparkGateway.Spec
