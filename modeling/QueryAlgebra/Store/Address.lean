import QueryAlgebra.Error
import QueryAlgebra.Store.Setting
import QueryAlgebra.Text.Internet

/-!
# Connection strings

A connection string names the servers of a database: the scheme `mongodb`, an optional credential,
one or more hosts with optional service numbers, after a slash an optional database and after a
question mark optional settings. Only its form is checked here; whether a server answers shows when
it is asked for something.

* `Host`, `Host.ofChars?` — one server.
* `Credential.ofChars?` — who connects.
* `hostsOfAddress` — the servers of a connection string.
-/

namespace QueryAlgebra

open Text

/-- A server: its name, and the number of the service on it where one is given. -/
structure Host where
  name : String
  service : Option Nat
deriving DecidableEq

namespace Host

/-- The number of a service: sixteen bits, not all of them zero. -/
def service? (cs : List Char) : Option Nat :=
  (unsignedOfChars? cs).filter fun n => 1 ≤ n && n ≤ 65535

/-- A server from its name and what follows it: nothing, or a colon and a number. -/
def ofParts? (name after : List Char) : Option Host :=
  if name.isEmpty then none
  else match after with
    | [] => some ⟨String.ofList name, none⟩
    | ':' :: digits => (service? digits).map fun service => ⟨String.ofList name, some service⟩
    | _ => none

/-- A server from its written form. An address with colons stands in brackets, and a name that ends
in `.sock` is the path of a local socket, which stands for one service. -/
def ofChars? (cs : List Char) : Option Host :=
  if ".sock".toList.isSuffixOf cs then (percentText? cs).map fun path => ⟨path, none⟩
  else match cs with
    | '[' :: rest =>
      match rest.dropWhile (· != ']') with
      | [] => none
      | _ :: after =>
        let address := rest.takeWhile (· != ']')
        if isAddress6 address then ofParts? address after else none
    | _ => ofParts? (cs.takeWhile (· != ':')) (cs.dropWhile (· != ':'))

end Host

namespace Credential

/-- The text of a name or a password, which has to be written without the characters that set the
parts of a connection string apart. -/
def part? (cs : List Char) : Option String :=
  if isPercentEncoded cs && !cs.any (":/?#[]@".toList.contains ·) then percentText? cs else none

/-- A name, and behind a colon a password. An empty name is none; a credential with a part that is
not well written is an error. -/
def ofChars? (cs : List Char) : Option (Option Credential) :=
  let name := cs.takeWhile (· != ':')
  if name.isEmpty then some none
  else do
    let name ← part? name
    match cs.dropWhile (· != ':') with
    | [] => return some ⟨name, none⟩
    | _ :: password => return some ⟨name, some (← part? password)⟩

end Credential

/-- Whether a text can be the name of a database: once its percent escapes are read, it is UTF-8 and
holds no slash, backslash, space, quote or dollar sign. -/
def isDatabaseName (cs : List Char) : Bool :=
  match percentText? cs with
  | some name => !name.toList.any ("/\\ \"$".toList.contains ·)
  | none => false

/-- The servers in what follows the scheme. The credential ends at the last at sign before the
settings. -/
def hostsOf? (cs : List Char) : Option (List Host) := do
  let place := cs.takeWhile (· != '?')
  let settings ← ConnectionSettings.ofChars? ((cs.dropWhile (· != '?')).drop 1)
  let servers := (place.reverse.takeWhile (· != '@')).reverse
  let requested := place.contains '@'
  let credential ← Credential.ofChars? (place.take (place.length - servers.length - 1))
  let hosts ← ((servers.takeWhile (· != '/')).splitOn ',').mapM Host.ofChars?
  if isDatabaseName ((servers.dropWhile (· != '/')).drop 1) &&
      settings.areConsistent hosts.length && settings.admits requested credential then
    some hosts
  else none

/-- The servers that a connection string names. -/
def hostsOfAddress (address : String) : Except QueryError (List Host) :=
  let scheme := "mongodb://".toList
  let cs := address.toList
  let hosts := if scheme.isPrefixOf cs then hostsOf? (cs.drop scheme.length) else none
  match hosts with
  | some hosts => .ok hosts
  | none => .error (.invalidAddress address)

end QueryAlgebra
