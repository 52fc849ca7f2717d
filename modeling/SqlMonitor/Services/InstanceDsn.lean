import Mathlib.Data.List.MinMax
import SqlMonitor.Services.IndexCatalog
import SqlMonitor.Shared.Base64
import SqlMonitor.Shared.ConnectionString

set_option autoImplicit false

namespace SqlMonitor.Services

section Encryption

def utf8Bytes (text : String) : List UInt8 := text.toByteArray.data.toList

def encryptConnectionString (connectionString : String) : String :=
  String.ofList (Base64.encode (utf8Bytes connectionString))

def isAscii (text : String) : Bool := text.toList.all fun c => c.toNat < 128

-- Nothing where encoding in ASCII or one of the two decodings raises.
def decryptConnectionString (encrypted : String) : Option String := do
  guard (isAscii encrypted)
  let bytes ← Base64.decode encrypted.toList
  String.fromUTF8? bytes.toByteArray

theorem toByteArray_utf8Bytes (text : String) :
    (utf8Bytes text).toByteArray = text.toByteArray := by
  refine ByteArray.ext ?_
  simp [utf8Bytes]

theorem fromUTF8?_toByteArray (text : String) : String.fromUTF8? text.toByteArray = some text := by
  rw [String.fromUTF8?, dif_pos text.isValidUTF8]
  rfl

theorem isAscii_encrypt (connectionString : String) :
    isAscii (encryptConnectionString connectionString) = true := by
  have ascii : ('=' :: Base64.alphabet).all (fun c => c.toNat < 128) = true := by decide +kernel
  rw [isAscii, encryptConnectionString, String.toList_ofList, List.all_eq_true]
  intro c member
  exact List.all_eq_true.mp ascii c (Base64.mem_of_mem_encode member)

theorem decrypt_encrypt (connectionString : String) :
    decryptConnectionString (encryptConnectionString connectionString) = some connectionString := by
  have decoded : Base64.decode (encryptConnectionString connectionString).toList =
      some (utf8Bytes connectionString) := by
    rw [encryptConnectionString, String.toList_ofList, Base64.decode_encode]
  simp [decryptConnectionString, isAscii_encrypt, decoded, toByteArray_utf8Bytes,
    fromUTF8?_toByteArray, guard]

end Encryption

section Building

def defaultSqlServerOdbcDriver : String := "ODBC Driver 18 for SQL Server"

-- The zeros of the decimal digits; the nine other digits of a script follow its zero.
def decimalZeros : List Nat :=
  [0x30, 0x660, 0x6F0, 0x7C0, 0x966, 0x9E6, 0xA66, 0xAE6, 0xB66, 0xBE6, 0xC66, 0xCE6, 0xD66,
    0xDE6, 0xE50, 0xED0, 0xF20, 0x1040, 0x1090, 0x17E0, 0x1810, 0x1946, 0x19D0, 0x1A80, 0x1A90,
    0x1B50, 0x1BB0, 0x1C40, 0x1C50, 0xA620, 0xA8D0, 0xA900, 0xA9D0, 0xA9F0, 0xAA50, 0xABF0,
    0xFF10, 0x104A0, 0x10D30, 0x11066, 0x110F0, 0x11136, 0x111D0, 0x112F0, 0x11450, 0x114D0,
    0x11650, 0x116C0, 0x11730, 0x118E0, 0x11950, 0x11C50, 0x11D50, 0x11DA0, 0x16A60, 0x16AC0,
    0x16B50, 0x1D7CE, 0x1D7D8, 0x1D7E2, 0x1D7EC, 0x1D7F6, 0x1E140, 0x1E2F0, 0x1E950, 0x1FBF0]

def decimalValue (c : Char) : Option Nat :=
  (decimalZeros.find? fun first => first ≤ c.toNat ∧ c.toNat < first + 10).map (c.toNat - ·)

-- `re.fullmatch(r"ODBC Driver (\d+) for SQL Server", driver_name)`
def driverVersion (driverName : String) : Option Nat := do
  let rest ← "ODBC Driver ".toList.isPrefixOf? driverName.toList
  let digits ← " for SQL Server".toList.isSuffixOf? rest
  guard (digits ≠ [])
  let values ← digits.mapM decimalValue
  return values.foldl (fun version value => 10 * version + value) 0

-- The names of the drivers, or nothing where `pyodbc` cannot be imported.
def resolveSqlServerOdbcDriver (drivers : Option (List String)) : String :=
  let candidates := (drivers.getD []).filterMap fun driverName =>
    (driverVersion driverName).map fun version => (version, driverName)
  ((candidates.argmax Prod.fst).map Prod.snd).getD defaultSqlServerOdbcDriver

def odbcBrace (value : String) : List Char := ConnectionString.brace value.toList

def part (keyword : String) (value : List Char) : List Char := keyword.toList ++ '=' :: value

-- `";".join(parts) + ";"` ends every part with a semicolon.
def buildSqlAuthConnectionString (drivers : Option (List String)) (host : String) (port : Int)
    (username password databaseName : String) : String :=
  String.ofList
    ([part "Driver" (odbcBrace (resolveSqlServerOdbcDriver drivers)),
      part "Server" (odbcBrace (host ++ "," ++ toString port)),
      part "Database" (odbcBrace (orText (some databaseName) "master")),
      part "UID" (odbcBrace username),
      part "PWD" (odbcBrace password),
      part "Encrypt" "yes".toList,
      part "TrustServerCertificate" "yes".toList].flatMap fun text => text ++ [';'])

open ConnectionString in
theorem parse_buildSqlAuthConnectionString (drivers : Option (List String)) (host : String)
    (port : Int) (username password databaseName : String) :
    parse (buildSqlAuthConnectionString drivers host port username password databaseName).toList =
      [⟨"Driver".toList, (resolveSqlServerOdbcDriver drivers).toList⟩,
        ⟨"Server".toList, (host ++ "," ++ toString port).toList⟩,
        ⟨"Database".toList, (orText (some databaseName) "master").toList⟩,
        ⟨"UID".toList, username.toList⟩,
        ⟨"PWD".toList, password.toList⟩,
        ⟨"Encrypt".toList, "yes".toList⟩,
        ⟨"TrustServerCertificate".toList, "yes".toList⟩] := by
  simp only [buildSqlAuthConnectionString, String.toList_ofList, part, odbcBrace, List.flatMap_cons,
    List.flatMap_nil, List.append_assoc, List.cons_append, List.nil_append]
  rw [parse_braced (by decide), parse_braced (by decide), parse_braced (by decide),
    parse_braced (by decide), parse_braced (by decide)]
  rfl

open ConnectionString in
theorem attributes_buildSqlAuthConnectionString (drivers : Option (List String)) (host : String)
    (port : Int) (username password databaseName : String) :
    parse (buildSqlAuthConnectionString drivers host port username password databaseName).toList =
        [⟨"Driver".toList, (resolveSqlServerOdbcDriver drivers).toList⟩,
          ⟨"Server".toList, (host ++ "," ++ toString port).toList⟩,
          ⟨"Database".toList, (if databaseName = "" then "master" else databaseName).toList⟩,
          ⟨"UID".toList, username.toList⟩,
          ⟨"PWD".toList, password.toList⟩,
          ⟨"Encrypt".toList, "yes".toList⟩,
          ⟨"TrustServerCertificate".toList, "yes".toList⟩] ∧
      ∀ drivers' host' port' username' password' databaseName',
        buildSqlAuthConnectionString drivers host port username password databaseName =
            buildSqlAuthConnectionString drivers' host' port' username' password' databaseName' ↔
          resolveSqlServerOdbcDriver drivers = resolveSqlServerOdbcDriver drivers' ∧
            host ++ "," ++ toString port = host' ++ "," ++ toString port' ∧
            orText (some databaseName) "master" = orText (some databaseName') "master" ∧
            username = username' ∧ password = password' := by
  have database : orText (some databaseName) "master" =
      if databaseName = "" then "master" else databaseName := by
    by_cases empty : databaseName = "" <;> simp [orText, Option.filter_some, empty]
  refine ⟨by rw [parse_buildSqlAuthConnectionString, database], ?_⟩
  intro drivers' host' port' username' password' databaseName'
  constructor
  · intro same
    have read := congrArg (fun text => parse text.toList) same
    simpa only [parse_buildSqlAuthConnectionString, List.cons.injEq, Attribute.mk.injEq,
      String.toList_inj, true_and, and_true] using read
  · intro agree
    obtain ⟨driver, server, named, rfl, rfl⟩ := agree
    simp only [buildSqlAuthConnectionString, driver, server, named]

end Building

section Accounts

-- Keywords are compared without regard to case.
def isUid (keyword : List Char) : Bool := (strip keyword).map Char.toUpper = "UID".toList

def dsnAccount (connectionString : String) : Option String :=
  (ConnectionString.value? isUid connectionString.toList).map String.ofList

/-- The `UID` of a stored connection string. -/
def storedAccount (encrypted : String) : Option String :=
  (decryptConnectionString encrypted).bind dsnAccount

theorem storedAccount_encrypt (connectionString : String) :
    storedAccount (encryptConnectionString connectionString) = dsnAccount connectionString := by
  rw [storedAccount, decrypt_encrypt, Option.bind_some]

theorem dsnAccount_build (drivers : Option (List String)) (host : String) (port : Int)
    (username password databaseName : String) :
    dsnAccount (buildSqlAuthConnectionString drivers host port username password databaseName) =
      some username := by
  have others : isUid "Driver".toList = false ∧ isUid "Server".toList = false ∧
      isUid "Database".toList = false ∧ isUid "UID".toList = true := by decide
  obtain ⟨driver, server, database, uid⟩ := others
  simp only [dsnAccount, ConnectionString.value?, parse_buildSqlAuthConnectionString,
    List.find?_cons, driver, server, database, uid, Option.map_some, String.ofList_toList]

end Accounts

end SqlMonitor.Services
