import ChainWatch.Config.Settings
import ChainWatch.Url.Redaction
import Mathlib.Data.Bool.AllAny

/-!
# What the log shows of a password

The address of the database is put together from its parts, of which only the password is encoded,
and the line about it in the log masks the password that is found when the address is read.  The
mask takes the place of everything that depends on the password, unless the name of the user ends
the authority early: behind a slash, a question mark or a hash sign everything belongs to the path,
the query or the fragment, which are shown.

* `Percent.isUnreserved_of_mem_escape` : which characters an encoded password has.
* `splitLastAt_append`, `splitUserinfo_append` : the pieces of an authority beside the password.
* `Url.parse?_of_password` : reading an address comes to the same URL for all passwords.
* `connectionDetails_of_passwords` : the line in the log is the same for all passwords.
-/

namespace ChainWatch

/-! ### Encoded passwords -/

namespace Percent

theorem isUnreserved_upperDigit {n : Nat} (h : n < 16) :
    isUnreserved (Hex.upperDigit n) = true := by
  revert h
  revert n
  decide

/-- An encoded secret consists of unreserved characters and percent signs. -/
theorem isUnreserved_of_mem_escape {secret : String} {c : Char} (h : c ∈ (escape secret).toList) :
    isUnreserved c = true ∨ c = '%' := by
  rw [escape, encode, String.toList_ofList, encodeChars, List.mem_flatMap] at h
  obtain ⟨d, -, hc⟩ := h
  split at hc
  · -- the digits of a byte
    obtain ⟨b, -, hc⟩ := List.mem_flatMap.1 hc
    have hb := b.toNat_lt
    simp only [group, List.mem_cons, List.not_mem_nil, or_false] at hc
    rcases hc with rfl | rfl | rfl
    · exact .inr rfl
    · exact .inl (isUnreserved_upperDigit (by omega))
    · exact .inl (isUnreserved_upperDigit (by omega))
  next hd =>
    rw [List.mem_singleton.1 hc]
    exact .inl (by simpa using hd)

/-- None of them ends an authority or is passed over when a URL is read. -/
theorem not_mem_delimiters {c : Char} (h : isUnreserved c = true ∨ c = '%') :
    c ∉ ['/', '?', '#', '\t', '\n', '\r'] := by
  have hreserved : ∀ d ∈ ['/', '?', '#', '\t', '\n', '\r'], isUnreserved d = false ∧ d ≠ '%' :=
    List.all_iff_forall_prop.1 (by decide)
  intro hmem
  obtain ⟨hc, hpercent⟩ := hreserved c hmem
  rcases h with h | h
  · rw [hc] at h
    cases h
  · exact hpercent h

theorem escape_ne_nil {secret : String} (h : secret ≠ "") : (escape secret).toList ≠ [] := by
  obtain ⟨c, rest, hsecret⟩ :=
    List.exists_cons_of_ne_nil fun hnil => h (String.toList_eq_nil_iff.1 hnil)
  rw [escape, encode, String.toList_ofList, encodeChars, hsecret, List.flatMap_cons]
  refine List.append_ne_nil_of_left_ne_nil ?_ _
  split
  · -- a character has at least one byte
    obtain ⟨b, bytes, hbytes⟩ := List.exists_cons_of_length_pos
      ((String.length_utf8EncodeChar c).symm ▸ c.utf8Size_pos)
    rw [groups, hbytes, List.flatMap_cons]
    exact List.cons_ne_nil _ _
  · exact List.cons_ne_nil _ _

end Percent

/-! ### The pieces of an authority -/

/-- What follows the last at sign, and what stands between a given one and that. -/
theorem splitLastAt_append (back : List Char) : ∃ mid host, ∀ front,
    splitLastAt (front ++ '@' :: back) = some (front ++ mid, host) := by
  let host := (back.reverse.takeWhile (· != '@')).reverse
  refine ⟨('@' :: back).take (back.length - host.length), host, fun front => ?_⟩
  have hhost : ((front ++ '@' :: back).reverse.takeWhile (· != '@')).reverse = host := by
    rw [List.reverse_append, List.reverse_cons, List.append_assoc, List.takeWhile_append]
    split
    next hall =>
      have hwhole : back.reverse.takeWhile (· != '@') = back.reverse :=
        (List.takeWhile_prefix _).eq_of_length hall
      simp [host, hwhole]
    next => rfl
  have hlength : host.length ≤ back.length := by
    have := (List.takeWhile_prefix (p := (· != '@')) (l := back.reverse)).length_le
    simpa [host] using this
  have htake : (front ++ '@' :: back).length - host.length - 1 =
      front.length + (back.length - host.length) := by
    rw [List.length_append, List.length_cons]
    omega
  rw [splitLastAt, if_pos (by simp), hhost]
  dsimp only
  rw [htake, List.take_length_add_append]

/-- The text up to the first colon, and the text behind it, for all texts that follow some user. -/
theorem span_colon_append (user : List Char) : ∃ name after, ∀ rest,
    (user ++ ':' :: rest).takeWhile (· != ':') = name ∧
      (user ++ ':' :: rest).dropWhile (· != ':') = ':' :: (after ++ rest) := by
  induction user with
  | nil => exact ⟨[], [], fun rest => ⟨rfl, rfl⟩⟩
  | cons c user ih =>
    by_cases hc : c = ':'
    · subst hc
      exact ⟨[], user ++ [':'], fun rest => by simp⟩
    · obtain ⟨name, after, h⟩ := ih
      have hpass : (c != ':') = true := by simpa using hc
      refine ⟨c :: name, after, fun rest => ?_⟩
      simp only [List.cons_append, List.takeWhile_cons, List.dropWhile_cons, hpass, if_true, h rest,
        and_self]

/-- Behind some user, the password is all that depends on the text that follows. -/
theorem splitUserinfo_append (user : List Char) : ∃ name, ∀ rest, rest ≠ [] →
    ∃ password, splitUserinfo (user ++ ':' :: rest) = (name, some password) := by
  obtain ⟨name, after, h⟩ := span_colon_append user
  refine ⟨Percent.encodeChars hiddenInUserinfo name, fun rest hrest => ?_⟩
  obtain ⟨c, password, hpassword⟩ :=
    List.exists_cons_of_ne_nil (List.append_ne_nil_of_right_ne_nil after hrest)
  refine ⟨Percent.encodeChars hiddenInUserinfo (c :: password), ?_⟩
  simp only [splitUserinfo, (h rest).1, (h rest).2, hpassword]

/-- Reading an authority comes to the same for all secrets, but for the password that is found. -/
theorem Authority.parse?_of_password (user back rest : List Char) :
    ∃ shape : Option (Authority × List Char), ∀ secret, secret ≠ [] → ∃ password,
      Authority.parse? .plain (user ++ ':' :: secret ++ '@' :: back) rest =
        shape.map fun read => ({ read.1 with password := some password }, read.2) := by
  obtain ⟨mid, hostAndPort, hsplit⟩ := splitLastAt_append back
  obtain ⟨name, hinfo⟩ := splitUserinfo_append user
  let found := splitHost false hostAndPort
  refine ⟨if found.1.isEmpty then none else (hostOf .plain found.1).bind fun host =>
    (splitPort .plain found.2).map fun read =>
      ({ username := name, host, port := read.1 }, read.2 ++ rest), fun secret hsecret => ?_⟩
  obtain ⟨password, hpassword⟩ :=
    hinfo (secret ++ mid) (List.append_ne_nil_of_left_ne_nil hsecret mid)
  refine ⟨password, ?_⟩
  have hat : splitLastAt (user ++ ':' :: secret ++ '@' :: back) =
      some (user ++ ':' :: (secret ++ mid), hostAndPort) := by
    rw [hsplit, List.append_assoc, List.cons_append]
  have hsome : (user ++ ':' :: (secret ++ mid)).isEmpty = false := by simp
  simp only [Authority.parse?, hat, Option.getD_some, hsome, hpassword, Option.isSome_some,
    Bool.false_eq_true, false_and, and_false, or_true, and_true, if_false]
  split
  · rfl
  · cases hostOf .plain found.1 with
    | none => rfl
    | some host => cases splitPort .plain found.2 <;> rfl

/-! ### Whole addresses -/

/-- A URL of which everything but the password is given. -/
def Url.ofShape (password : List Char) (shape : Url × Authority) : Url :=
  { shape.1 with authority := some { shape.2 with password := some password } }

/-- Query and fragment do not touch the authority. -/
theorem Url.withTail_authority (kind : SchemeKind) (u : Url) (a : Option Authority)
    (tail : List Char) :
    Url.withTail kind { u with authority := a } tail =
      { Url.withTail kind u tail with authority := a } := by
  unfold Url.withTail
  split
  · split <;> rfl
  · split <;> rfl

theorem endsAuthority_eq_false {c : Char} (h : c ∉ ['/', '?', '#']) :
    SchemeKind.plain.endsAuthority c = false := by
  simpa [SchemeKind.endsAuthority, SchemeKind.isSlash, SchemeKind.isSpecial, and_assoc] using h

/-- Reading what follows two slashes comes to the same for all secrets, but for the password that is
found, if neither the user nor the secret ends the authority. -/
theorem parseWithAuthority_of_password (scheme back : List Char) {user : List Char}
    (huser : ∀ c ∈ user, c ∉ ['/', '?', '#']) :
    ∃ shape : Option (Url × Authority), ∀ secret, secret ≠ [] →
      (∀ c ∈ secret, c ∉ ['/', '?', '#']) → ∃ password,
        parseWithAuthority .plain scheme (user ++ ':' :: secret ++ '@' :: back) =
          shape.map (Url.ofShape password) := by
  let goesOn (c : Char) : Bool := !SchemeKind.plain.endsAuthority c
  let inside := back.takeWhile goesOn
  obtain ⟨shape, hshape⟩ := Authority.parse?_of_password user inside (back.drop inside.length)
  refine ⟨shape.map fun read =>
    (Url.withTail .plain { scheme, path := pathOf .plain (splitPath read.2).1 }
      (splitPath read.2).2, read.1), fun secret hsecret hplain => ?_⟩
  obtain ⟨password, hparse⟩ := hshape secret hsecret
  refine ⟨password, ?_⟩
  have hfront : ∀ c ∈ user ++ ':' :: secret ++ ['@'], goesOn c = true := by
    intro c hc
    have : c ∉ ['/', '?', '#'] := by
      simp only [List.mem_append, List.mem_cons, List.not_mem_nil, or_false] at hc
      rcases hc with (hc | rfl | hc) | rfl
      · exact huser c hc
      · decide
      · exact hplain c hc
      · decide
    simp only [goesOn, endsAuthority_eq_false this, Bool.not_false]
  have htake : (user ++ ':' :: secret ++ '@' :: back).takeWhile goesOn =
      user ++ ':' :: secret ++ '@' :: inside := by
    rw [List.append_cons _ '@' back, List.append_cons _ '@' inside,
      List.takeWhile_append_of_pos hfront]
  have hdrop : (user ++ ':' :: secret ++ '@' :: back).drop
      (user ++ ':' :: secret ++ '@' :: inside).length = back.drop inside.length := by
    rw [List.length_append, List.length_cons, List.drop_length_add_append, List.drop_succ_cons]
  rw [parseWithAuthority]
  dsimp only
  rw [htake, hdrop, hparse]
  cases shape with
  | none => rfl
  | some read =>
    obtain ⟨a, left⟩ := read
    exact congrArg some (Url.withTail_authority .plain
      { scheme, path := pathOf .plain (splitPath left).1 }
      (some { a with password := some password }) (splitPath left).2)

/-- Whether a character inside an address counts. -/
def counts (c : Char) : Bool := c != '\t' && c != '\n' && c != '\r'

theorem counts_iff {c : Char} : counts c = true ↔ c ∉ ['\t', '\n', '\r'] := by
  simp [counts, and_assoc]

/-- The start of every address that is put together from its parts. -/
def addressStart : List Char := "postgres://".toList

/-- The blanks that are cut off from an address stand behind its last at sign. -/
theorem significant_append (back : List Char) : ∃ tail, ∀ front : List Char,
    significant (String.ofList (addressStart ++ front ++ '@' :: back)) =
      addressStart ++ front.filter counts ++ '@' :: tail := by
  let isBlank (c : Char) : Bool := c ≤ ' '
  refine ⟨(back.reverse.dropWhile isBlank).reverse.filter counts, fun front => ?_⟩
  have hstart : (addressStart ++ front ++ '@' :: back).dropWhile isBlank =
      addressStart ++ front ++ '@' :: back := rfl
  have hend : (addressStart ++ front ++ '@' :: back).reverse.dropWhile isBlank =
      back.reverse.dropWhile isBlank ++ '@' :: (addressStart ++ front).reverse := by
    rw [List.reverse_append, List.reverse_cons, List.append_assoc, List.dropWhile_append]
    split
    next hempty =>
      rw [List.isEmpty_iff.1 hempty]
      rfl
    next => rfl
  have hcounts : addressStart.filter counts = addressStart := rfl
  rw [significant, String.toList_ofList, hstart, hend, List.reverse_append, List.reverse_cons,
    List.reverse_reverse]
  change List.filter counts _ = _
  rw [List.filter_append, List.filter_append, List.filter_append, hcounts,
    List.append_assoc _ (['@'].filter counts)]
  rfl

theorem splitScheme_addressStart (rest : List Char) :
    splitScheme (addressStart ++ rest) = some ("postgres".toList, '/' :: '/' :: rest) := rfl

/-- The characters of an address that is put together from its parts. -/
def addressChars (user secret back : List Char) : List Char :=
  addressStart ++ user ++ ':' :: secret ++ '@' :: back

/-- Reading an address that is put together comes to the same for all secrets, but for the password
that is found. -/
theorem Url.parse?_of_password (back : List Char) {user : List Char}
    (huser : ∀ c ∈ user, c ∉ ['/', '?', '#']) :
    ∃ shape : Option (Url × Authority), ∀ secret, secret ≠ [] →
      (∀ c ∈ secret, Percent.isUnreserved c = true ∨ c = '%') → ∃ password,
        Url.parse? (String.ofList (addressChars user secret back)) =
          shape.map (Url.ofShape password) := by
  obtain ⟨tail, hkept⟩ := significant_append back
  have hcounted : ∀ c ∈ user.filter counts, c ∉ ['/', '?', '#'] :=
    fun c hc => huser c (List.mem_filter.1 hc).1
  obtain ⟨shape, hshape⟩ := parseWithAuthority_of_password "postgres".toList tail hcounted
  refine ⟨shape, fun secret hsecret hescaped => ?_⟩
  have hclean : ∀ c ∈ secret, c ∉ ['/', '?', '#', '\t', '\n', '\r'] :=
    fun c hc => Percent.not_mem_delimiters (hescaped c hc)
  have hall : secret.filter counts = secret :=
    List.filter_eq_self.2 fun c hc => counts_iff.2 fun hmem =>
      hclean c hc (List.mem_append_right ['/', '?', '#'] hmem)
  obtain ⟨password, hparse⟩ := hshape secret hsecret fun c hc hmem =>
    hclean c hc (List.mem_append_left ['\t', '\n', '\r'] hmem)
  refine ⟨password, ?_⟩
  have hsignificant : significant (String.ofList (addressChars user secret back)) =
      addressStart ++ (user.filter counts ++ ':' :: secret ++ '@' :: tail) := by
    have hcolon : (':' :: secret).filter counts = ':' :: secret := congrArg (':' :: ·) hall
    rw [addressChars, List.append_assoc addressStart, hkept, List.filter_append, hcolon,
      List.append_assoc]
  rw [Url.parse?, hsignificant, splitScheme_addressStart]
  exact hparse

/-- The mask takes the place of all that depends on a secret. -/
theorem redactedUrl_eq_of_shape {url other : String} {shape : Option (Url × Authority)}
    {password another : List Char}
    (hurl : Url.parse? url = shape.map (Url.ofShape password))
    (hother : Url.parse? other = shape.map (Url.ofShape another)) :
    redactedUrl url = redactedUrl other := by
  rw [redactedUrl, redactedUrl, hurl, hother]
  cases shape <;> rfl

/-! ### The line in the log -/

namespace Environment

/-- The variables with another password. -/
def withPassword (env : Environment) (password : String) : Environment := fun name =>
  if name = "DB_PASSWORD" then some password else env name

theorem withPassword_password (env : Environment) (password : String) :
    env.withPassword password "DB_PASSWORD" = some password := if_pos rfl

theorem withPassword_of_ne (env : Environment) (password : String) {name : String}
    (h : name ≠ "DB_PASSWORD") : env.withPassword password name = env name := if_neg h

end Environment

/-- What stands in the address of the database behind the password. -/
def databaseSuffix (env : Environment) : List Char :=
  (env.text "DB_HOST" "localhost" ++ ":" ++ env.text "DB_PORT" "5432" ++ "/" ++
    env.text "DB_NAME" "nuklaivm" ++ "?sslmode=" ++ env.text "DB_SSL_MODE" "disable").toList

theorem databaseUrl_eq (env : Environment) :
    databaseUrl env = String.ofList (addressChars (env.text "DB_USER" "postgres").toList
      (Percent.escape (env.text "DB_PASSWORD" "postgres")).toList (databaseSuffix env)) := by
  have hcolon : String.singleton ':' = ":" := rfl
  have hat : String.singleton '@' = "@" := rfl
  unfold databaseUrl addressChars addressStart databaseSuffix
  simp only [String.ofList_append, String.ofList_cons, String.ofList_toList, String.append_assoc,
    toString, hcolon, hat]

theorem databaseUrl_withPassword (env : Environment) (password : String) :
    databaseUrl (env.withPassword password) = String.ofList
      (addressChars (env.text "DB_USER" "postgres").toList (Percent.escape password).toList
        (databaseSuffix env)) := by
  have hother (name standard : String) (h : name ≠ "DB_PASSWORD") :
      (env.withPassword password).text name standard = env.text name standard := by
    rw [Environment.text, Environment.withPassword_of_ne env password h, Environment.text]
  have hown : (env.withPassword password).text "DB_PASSWORD" "postgres" = password := by
    rw [Environment.text, Environment.withPassword_password, Option.getD_some]
  have hsuffix : databaseSuffix (env.withPassword password) = databaseSuffix env := by
    simp only [databaseSuffix, hother "DB_HOST" _ (by decide), hother "DB_PORT" _ (by decide),
      hother "DB_NAME" _ (by decide), hother "DB_SSL_MODE" _ (by decide)]
  rw [databaseUrl_eq, hown, hother "DB_USER" _ (by decide), hsuffix]

/-- **The line about the database is the same for all passwords.**  This holds for an address that
is put together from its parts, whatever host, port, name and mode are, and for every name of the
user in which no character ends the authority. -/
theorem connectionDetails_of_passwords {env : Environment} (hurl : env "DATABASE_URL" = none)
    (huser : ∀ c ∈ (env.text "DB_USER" "postgres").toList, c ∉ ['/', '?', '#'])
    {password another : String} (hpassword : password ≠ "") (hanother : another ≠ "") :
    connectionDetails (Settings.ofEnvironment (env.withPassword password)).database.url =
      connectionDetails (Settings.ofEnvironment (env.withPassword another)).database.url := by
  obtain ⟨shape, hshape⟩ := Url.parse?_of_password (databaseSuffix env) huser
  have hread (secret : String) (h : secret ≠ "") := hshape (Percent.escape secret).toList
    (Percent.escape_ne_nil h) fun c hc => Percent.isUnreserved_of_mem_escape hc
  obtain ⟨found, hfound⟩ := hread password hpassword
  obtain ⟨other, hother⟩ := hread another hanother
  have haddress (secret : String) :
      (Settings.ofEnvironment (env.withPassword secret)).database.url =
        databaseUrl (env.withPassword secret) := by
    rw [Settings.ofEnvironment, Settings.databaseOf, Environment.text,
      Environment.withPassword_of_ne env secret (by decide), hurl, Option.getD_none]
  rw [haddress, haddress, connectionDetails, connectionDetails, databaseUrl_withPassword,
    databaseUrl_withPassword, redactedUrl_eq_of_shape hfound hother]

/-- The name of the user may hold a colon or an at sign, and the host a slash. -/
theorem connectionDetails_of_passwords_awkward :
    let env : Environment :=
      fun name => [("DB_USER", "in:dex@er"), ("DB_HOST", "db/replica")].lookup name
    env "DATABASE_URL" = none ∧
      connectionDetails (Settings.ofEnvironment (env.withPassword "s3cret")).database.url =
        connectionDetails (Settings.ofEnvironment (env.withPassword "p@ss")).database.url :=
  ⟨by decide, connectionDetails_of_passwords (by decide) (List.all_iff_forall_prop.1 (by decide))
    (by decide) (by decide)⟩

/-- Behind a slash in the name of the user, the password belongs to the path and is shown. -/
theorem connectionDetails_of_user_with_slash :
    let env : Environment := fun name => [("DB_USER", "/")].lookup name
    (connectionDetails (Settings.ofEnvironment (env.withPassword "secret")).database.url).text =
        "Database connection details: " ++
          "postgres:///:secret@localhost:5432/nuklaivm?sslmode=disable" ∧
      connectionDetails (Settings.ofEnvironment (env.withPassword "secret")).database.url ≠
        connectionDetails (Settings.ofEnvironment (env.withPassword "other")).database.url := by
  decide +kernel

end ChainWatch
