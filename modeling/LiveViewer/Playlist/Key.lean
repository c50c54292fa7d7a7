import LiveViewer.Playlist.Attribute

/-!
# Decryption keys

A key tag says how the segments after it are encrypted, until the next key tag of the same key
format: `METHOD=NONE` alone says that they are not, and otherwise the attribute list names the
method (`AES-128` or `SAMPLE-AES`) and the URI of the key, and may give an initialization vector
of sixteen bytes in hexadecimal after `0x`, the key format (only `identity` is known), and the
key format versions, numbers of eight bits separated by `/`.

Attributes are read in order, so the first bad one is reported; a missing method is reported
before a missing URI, and a URI that is blank counts as missing.
-/

namespace LiveViewer.Playlist

/-- How segments are encrypted. -/
inductive KeyMethod where
  | aes128
  | sampleAes
  deriving DecidableEq, Repr

/-- Reads a method name. -/
def KeyMethod.read (s : String) : Except PlaylistError KeyMethod :=
  if s = "AES-128" then .ok .aes128
  else if s = "SAMPLE-AES" then .ok .sampleAes
  else .error .noMatchingVariant

/-- The name of a method. -/
def KeyMethod.text : KeyMethod → String
  | .aes128 => "AES-128"
  | .sampleAes => "SAMPLE-AES"

/-- The key that decrypts segments. -/
structure DecryptionKey where
  method : KeyMethod
  uri : String
  /-- The initialization vector's sixteen bytes, when given. -/
  iv : Option (List Nat) := none
  /-- Whether the key format `identity` is given. -/
  identity : Bool := false
  /-- The key format versions, when given. -/
  versions : Option (List Nat) := none
  deriving DecidableEq, Repr

/-- Reads an initialization vector: `0x` or `0X` and sixteen bytes in hexadecimal. -/
def readIv (s : String) : Except PlaylistError (List Nat) :=
  if s.startsWith "0x" || s.startsWith "0X" then
    (Text.decodeHex (String.ofList (s.toList.drop 2)) (some 16)).mapError .badHex
  else .error .invalidInput

/-- Checks a key format: it must be `identity`. -/
def checkKeyFormat (s : String) : Except PlaylistError Unit :=
  (afterTag (unquote s) "identity").map fun _ => ()

/-- Reads key format versions: numbers of eight bits separated by `/`. -/
def readVersions (s : String) : Except PlaylistError (List Nat) :=
  ((unquote s).splitOn "/").mapM fun v => readNumber 8 v v

/-- What the attributes of a key said so far. -/
structure KeyFields where
  method : Option KeyMethod := none
  uri : Option String := none
  iv : Option (List Nat) := none
  identity : Bool := false
  versions : Option (List Nat) := none

/-- Takes in one attribute of a key. -/
def KeyFields.add (k : KeyFields) : String × String → Except PlaylistError KeyFields
  | (name, value) =>
    if name = "METHOD" then return { k with method := some (← KeyMethod.read value) }
    else if name = "URI" then
      let u := unquote value
      pure (if (Text.trim u).isEmpty then k else { k with uri := some u })
    else if name = "IV" then return { k with iv := some (← readIv value) }
    else if name = "KEYFORMAT" then do
      checkKeyFormat value
      return { k with identity := true }
    else if name = "KEYFORMATVERSIONS" then return { k with versions := some (← readVersions value) }
    else pure k

/-- Reads the attribute list of a key. -/
def DecryptionKey.read (input : String) : Except PlaylistError DecryptionKey := do
  let k ← (attributePairs input).foldlM KeyFields.add {}
  match k.method, k.uri with
  | none, _ => throw (.missingValue "METHOD")
  | some _, none => throw (.missingValue "URI")
  | some method, some uri =>
    pure { method, uri, iv := k.iv, identity := k.identity, versions := k.versions }

/-- The attribute list of a key, written back: versions other than the single version `1`
are written. -/
def DecryptionKey.text (k : DecryptionKey) : String :=
  "METHOD=" ++ k.method.text ++ ",URI=" ++ quoted k.uri ++
    (k.iv.map (",IV=0x" ++ Text.encodeHex ·)).getD "" ++
    (if k.identity then ",KEYFORMAT=" ++ quoted "identity" else "") ++
    (match k.versions with
     | none | some [] | some [1] => ""
     | some vs => ",KEYFORMATVERSIONS=" ++ quoted ("/".intercalate (vs.map toString)))

/-- Reads the value of a key tag: `none` for `METHOD=NONE`, segments without encryption. -/
def readKeyTag (input : String) : Except PlaylistError (Option DecryptionKey) :=
  if Text.trim input = "METHOD=NONE" then .ok none else some <$> DecryptionKey.read input

/-- Whether a key in force says that segments are encrypted with AES-128. -/
def isAes128 (k : Option DecryptionKey) : Bool :=
  k.any (·.method == .aes128)

/-- Whether a key is given with the key format `identity`; a key tag replaces the key in force
of the same format. -/
def hasIdentityFormat (k : Option DecryptionKey) : Bool :=
  k.any (·.identity)

/-- The keys in force after a key tag: it replaces the first key of its format, or joins them. -/
def updateKeys (keys : List (Option DecryptionKey)) (k : Option DecryptionKey) :
    List (Option DecryptionKey) :=
  match keys.findIdx? (hasIdentityFormat · == hasIdentityFormat k) with
  | some i => keys.set i k
  | none => keys ++ [k]

end LiveViewer.Playlist
