import QueryAlgebra.Assoc
import QueryAlgebra.Text.Casing
import QueryAlgebra.Text.Percent

/-!
# Settings of a connection

The settings in a connection string: pairs of a name, whose case does not matter, and a value. Every
setting is known and has a rule for its value; some go only with others.

* `ConnectionSettings.ofChars?` — the settings of a text: each is known and valid, and none is
  repeated.
* `ConnectionSettings.areConsistent` — whether settings go together.
* `Credential`, `ConnectionSettings.admits` — whether they go with the credential of the connection.
-/

namespace QueryAlgebra

open Text

/-- Settings by their names in lower case, in the order in which they are written. -/
abbrev ConnectionSettings := List (String × String)

namespace ConnectionSettings

/-! ### Rules for values -/

/-- Whether a text is one of two truth values. -/
def isSwitch (s : String) : Bool :=
  s == "true" || s == "false"

/-- The natural number that a text gives, within the given limits. -/
def naturalWithin? (least limit : Nat) (s : String) : Option Nat :=
  (unsignedOfChars? s.toList).filter fun n => least ≤ n && n < limit

/-- Whether a text is a count of milliseconds, `least` or more. -/
def isDuration (least : Nat) (s : String) : Bool :=
  (naturalWithin? least UInt64.size s).isSome

/-- Whether a text is a size, `least` or more. -/
def isSize (least : Nat) (s : String) : Bool :=
  (naturalWithin? least UInt32.size s).isSome

/-- The seconds that a text gives, of which -1 stands for no limit. -/
def seconds? (s : String) : Option Int :=
  (intOfText? s).filter fun n => -1 ≤ n && n ≤ Int64.maxValue.toInt

/-- Whether a text can be the number or the name of the servers that acknowledge a write: a number
is not negative. -/
def isAcknowledgment (s : String) : Bool :=
  match intOfText? s with
  | some n => 0 ≤ n || n < Int32.minValue.toInt
  | none => true

/-- Whether a text is a list of pairs, `isPair` saying which ones. -/
def arePairs (isPair : List (List Char) → Bool) (s : String) : Bool :=
  (s.toList.splitOn ',').all fun pair => isPair (pair.splitOn ':')

/-- Whether a tag has a name and a value. -/
def isTag (parts : List (List Char)) : Bool :=
  2 ≤ parts.length

/-- The properties that hold more than a text, so that a connection string has no room for them. -/
def unwritableProperties : List String :=
  ["ALLOWED_HOSTS", "OIDC_CALLBACK", "OIDC_HUMAN_CALLBACK"]

/-- Whether a property has a name and a value, neither of them empty, and can be written. -/
def isProperty : List (List Char) → Bool
  | name :: value :: rest =>
    !name.isEmpty && (!value.isEmpty || !rest.isEmpty) &&
      !unwritableProperties.contains (String.ofList name)
  | _ => false

/-- The ways to prove an identity. -/
def mechanisms : List String :=
  ["SCRAM-SHA-1", "SCRAM-SHA-256", "MONGODB-CR", "MONGODB-X509", "PLAIN", "MONGODB-OIDC"]

/-- The rule for the values of a setting; none for a setting that is not known. Compression is not
at hand and no file is read, so the settings for these are not known. -/
def settingRule? : String → Option (String → Bool)
  | "appname" => some fun _ => true
  | "authmechanism" => some mechanisms.contains
  | "authmechanismproperties" => some (arePairs isProperty)
  | "authsource" => some fun s => !s.isEmpty
  | "connecttimeoutms" => some (isDuration 0)
  | "directconnection" => some isSwitch
  | "heartbeatfrequencyms" => some (isDuration 500)
  | "journal" => some isSwitch
  | "loadbalanced" => some isSwitch
  | "localthresholdms" => some (isDuration 0)
  | "maxconnecting" => some (isSize 1)
  | "maxidletimems" => some (isDuration 0)
  | "maxpoolsize" => some (isSize 1)
  | "maxstalenessseconds" => some fun s => (seconds? s).isSome
  | "minpoolsize" => some (isSize 0)
  | "readconcernlevel" => some fun _ => true
  | "readpreference" => some fun s =>
    ["primary", "primarypreferred", "secondary", "secondarypreferred", "nearest"].contains
      (toLower s)
  | "readpreferencetags" => some fun s => s.isEmpty || arePairs isTag s
  | "replicaset" => some fun _ => true
  | "retryreads" => some isSwitch
  | "retrywrites" => some isSwitch
  | "servermonitoringmode" => some fun s => ["stream", "poll", "auto"].contains (toLower s)
  | "serverselectiontimeoutms" => some (isDuration 0)
  | "sockettimeoutms" => some (isDuration 0)
  | "ssl" => some isSwitch
  | "tls" => some isSwitch
  | "tlsallowinvalidcertificates" => some isSwitch
  | "tlsinsecure" => some isSwitch
  | "uuidrepresentation" => some fun s =>
    ["csharplegacy", "javalegacy", "pythonlegacy"].contains (toLower s)
  | "w" => some isAcknowledgment
  | "waitqueuetimeoutms" => some (isDuration 0)
  | "wtimeoutms" => some (isDuration 0)
  | _ => none

/-! ### Reading -/

/-- The name and the value on the two sides of an equals sign. -/
def pairOfChars? (cs : List Char) : Option (String × String) :=
  match cs.dropWhile (· != '=') with
  | [] => none
  | _ :: value =>
    some (toLower (String.ofList (cs.takeWhile (· != '='))), percentTextLossy value)

/-- Whether a setting may be given several times. -/
def isRepeatable (name : String) : Bool :=
  name == "readpreferencetags"

/-- Whether no setting is repeated that may not be. -/
def areDistinct : ConnectionSettings → Bool
  | [] => true
  | (name, _) :: rest =>
    (isRepeatable name || !(Assoc.keys rest).contains name) && areDistinct rest

/-- Whether a setting is known and its value valid. -/
def isValid (setting : String × String) : Bool :=
  match settingRule? setting.1 with
  | some rule => rule setting.2
  | none => false

/-- The settings of a text, with ampersands between them. -/
def ofChars? (cs : List Char) : Option ConnectionSettings :=
  if cs.isEmpty then some []
  else ((cs.splitOn '&').mapM pairOfChars?).filter fun settings =>
    areDistinct settings && settings.all isValid

/-! ### Settings that go together -/

variable (settings : ConnectionSettings)

/-- Whether a setting has the given value. -/
def hasValue (name value : String) : Bool :=
  Assoc.get? settings name == some value

/-- Whether a setting is given. -/
def gives (name : String) : Bool :=
  Assoc.contains settings name

/-- Whether two switches do not say opposite things. -/
def agree (first second : String) : Bool :=
  !(settings.hasValue first "true" && settings.hasValue second "false") &&
    !(settings.hasValue first "false" && settings.hasValue second "true")

/-- Whether two switches do not say the same thing. -/
def differ (first second : String) : Bool :=
  !(settings.hasValue first "true" && settings.hasValue second "true") &&
    !(settings.hasValue first "false" && settings.hasValue second "false")

/-- Settings about certificates go only with encryption. Of the two, `tlsinsecure` stands for the
opposite of `tlsallowinvalidcertificates`, so that they do not have the same value. -/
def encryptionIsConsistent : Bool :=
  let isOff := settings.hasValue "tls" "false" || settings.hasValue "ssl" "false"
  let areCertificatesSet :=
    settings.gives "tlsinsecure" || settings.gives "tlsallowinvalidcertificates"
  settings.agree "tls" "ssl" && settings.differ "tlsinsecure" "tlsallowinvalidcertificates" &&
    !(isOff && areCertificatesSet)

/-- Whether a member other than the primary one may be read from. -/
def readsFromOthers : Bool :=
  match Assoc.get? settings "readpreference" with
  | some preference => toLower preference != "primary"
  | none => false

/-- The milliseconds between two checks of a server. -/
def heartbeat : Nat :=
  ((Assoc.get? settings "heartbeatfrequencyms").bind (naturalWithin? 0 UInt64.size)).getD 10000

/-- What a member is allowed to lag behind is no less than ninety seconds, nor than ten seconds more
than the time between two checks. -/
def lagIsConsistent : Bool :=
  match (Assoc.get? settings "maxstalenessseconds").bind seconds? with
  | some seconds =>
    seconds = -1 ||
      (settings.readsFromOthers && 90 ≤ seconds && settings.heartbeat + 10000 ≤ seconds * 1000)
  | none => true

/-- Tags tell members other than the primary one apart. -/
def tagsAreConsistent : Bool :=
  !settings.gives "readpreferencetags" || settings.readsFromOthers

/-- A write that nobody acknowledges is not waited for. -/
def writesAreConsistent : Bool :=
  !(settings.hasValue "journal" "true" &&
    ((Assoc.get? settings "w").bind intOfText?) == some 0)

/-- A direct connection, and one behind a balancer, is to one server. -/
def hostsAreConsistent (hostCount : Nat) : Bool :=
  let isDirect := settings.hasValue "directconnection" "true"
  let isBalanced := settings.hasValue "loadbalanced" "true"
  !(isDirect && 1 < hostCount) &&
    !(isBalanced && (1 < hostCount || isDirect || settings.gives "replicaset"))

/-- Whether settings go together, and with the number of hosts. -/
def areConsistent (hostCount : Nat) : Bool :=
  settings.encryptionIsConsistent && settings.lagIsConsistent && settings.tagsAreConsistent &&
    settings.writesAreConsistent && settings.hostsAreConsistent hostCount

end ConnectionSettings

/-! ### Credentials -/

/-- Who connects: a name, and a password if one is given. -/
structure Credential where
  name : String
  password : Option String

/-- Whether the identity is kept outside the database, as far as the settings say. -/
def ConnectionSettings.isExternal (settings : ConnectionSettings) : Bool :=
  match Assoc.get? settings "authsource" with
  | some source => source == "$external"
  | none => true

/-- The properties of the mechanism; of several with one name the last one counts. -/
def ConnectionSettings.properties (settings : ConnectionSettings) : List (String × String) :=
  match Assoc.get? settings "authmechanismproperties" with
  | none => []
  | some text =>
    Assoc.ofEntries ((text.toList.splitOn ',').map fun pair =>
      (String.ofList (pair.takeWhile (· != ':')),
        String.ofList ((pair.dropWhile (· != ':')).drop 1)))

/-- Whether the properties say where a token comes from: an environment, with the resource that the
token is for where the environment asks for one and nowhere else. The test environment knows one
user only. Without an environment the program itself provides the token. -/
def ConnectionSettings.tokenSourceIsKnown (settings : ConnectionSettings) (hasName : Bool) : Bool :=
  let properties := settings.properties
  let hasResource := Assoc.contains properties "TOKEN_RESOURCE"
  (Assoc.keys properties).all ["ENVIRONMENT", "TOKEN_RESOURCE"].contains &&
    match Assoc.get? properties "ENVIRONMENT" with
    | none => !hasResource
    | some "azure" => hasResource
    | some "gcp" => hasResource
    | some "k8s" => !hasResource
    | some "test" => !hasResource && !hasName
    | some _ => false

/-- Whether the settings go with a credential; `requested` tells whether the connection string has a
place for one. Some mechanisms need a name or a password, others exclude a password. -/
def ConnectionSettings.admits (settings : ConnectionSettings) (requested : Bool)
    (credential : Option Credential) : Bool :=
  let hasName := credential.isSome
  let hasPassword := (credential.bind Credential.password).isSome
  match Assoc.get? settings "authmechanism" with
  | none => hasName || !requested
  | some "PLAIN" => hasName && hasPassword
  | some "SCRAM-SHA-1" => hasName
  | some "SCRAM-SHA-256" => hasName
  | some "MONGODB-X509" => !hasPassword && settings.isExternal
  | some "MONGODB-OIDC" =>
    !hasPassword && settings.isExternal && settings.tokenSourceIsKnown hasName
  | some _ => true

end QueryAlgebra
