import QueryGate.Proofs.Computations
import QueryGate.Proofs.Text.Digits
import QueryGate.Proofs.Url.Ipv6
import QueryGate.Proofs.Url.Paths

/-!
# The parts of a URL, read and written

The parts in which a URL is read have a form of their own: user, password and path are encoded for
their places, and an address among the hosts is in its canonical form. Parts of that form, put
together as a URL, are read back as they are.

* `HostText h`: a host that is no domain, as reading leaves it.
* `LoginText text user password?`: user and password as they stand in front of a host.
* `Normal u`: parts of a URL as reading leaves them.

Results:
* `hostText_of_read`, `HostText.read`, `HostText.split`: hosts, read and found again.
* `LoginText.read`: user and password, found again.
* `readPort_natText`: ports, read back.

Headlines: **`normal_of_read`**, **`readAuthority_of_parts`**.
-/

namespace QueryGate.Url

open Text

variable {cs host rest before behind user password : List Char} {c : Char} {n : Nat}

/-! ## Hosts -/

/-- A host that is no domain, as reading leaves it. -/
inductive HostText : List Char → Prop
  | name {h : List Char} (nonempty : h ≠ []) (allowed : ∀ c ∈ h, isForbiddenHost c = false)
      (plain : Plain .controls h) : HostText h
  | address {pieces : List Nat} (valid : IsAddress pieces) :
      HostText ('[' :: (ipv6Text pieces ++ [']']))

theorem bracketHost_address {pieces : List Nat} (h : IsAddress pieces) :
    bracketHost ('[' :: (ipv6Text pieces ++ [']'])) = .ok ('[' :: (ipv6Text pieces ++ [']'])) := by
  unfold bracketHost
  have hlast : ('[' :: (ipv6Text pieces ++ [']'])).getLast? = some ']' := by
    rw [← List.cons_append, List.getLast?_concat]
  have hinner : (('[' :: (ipv6Text pieces ++ [']'])).drop 1).dropLast = ipv6Text pieces := by simp
  rw [hlast, hinner, readIpv6?_ipv6Text h]
  rfl

theorem hostText_of_bracket (h : bracketHost cs = .ok host) : HostText host := by
  unfold bracketHost at h
  split at h
  · rename_i hread
    obtain rfl := Except.ok.inj h
    exact .address (isAddress_of_read hread)
  · exact absurd h (by simp)

/-- **A host that was read is in its form.** -/
theorem hostText_of_read (h : opaqueHost cs = .ok host) (hne : host ≠ []) : HostText host := by
  unfold opaqueHost at h
  split at h
  · exact hostText_of_bracket h
  split at h
  · exact absurd h (by simp)
  · rename_i hallowed
    obtain rfl := Except.ok.inj h
    have hcs : ∀ c ∈ cs, isForbiddenHost c = false := by simpa using hallowed
    have hcodes : ∀ c ∈ codeChars, isForbiddenHost c = false := by decide
    exact .name hne (fun c hc => (mem_encode hc).elim (fun hc => hcs c hc.1) (hcodes c))
      (plain_encode (by decide) cs)

theorem ne_of_allowed {x : Char} (hc : isForbiddenHost c = false) (hx : isForbiddenHost x = true) :
    c ≠ x := by
  rintro rfl
  exact absurd (hc.symm.trans hx) Bool.false_ne_true

/-- A host in its form is read as it stands. -/
theorem HostText.read (h : HostText host) : opaqueHost host = .ok host := by
  unfold opaqueHost
  cases h with
  | address hvalid => exact (if_pos rfl).trans (bracketHost_address hvalid)
  | name hne hallowed hplain =>
    have hbracket : host.head? ≠ some '[' := fun hhead =>
      absurd (hallowed '[' (List.mem_of_head? hhead)) (by decide)
    rw [if_neg hbracket, if_neg (by simpa using hallowed), encode_of_plain hplain]

theorem HostText.ne_nil (h : HostText host) : host ≠ [] := by
  cases h with
  | name hne => exact hne
  | address => simp

/-- A visible character that ends no host. -/
structure HostChar (c : Char) : Prop where
  visible : 32 < c.toNat
  noEnd : c ≠ '/' ∧ c ≠ '?' ∧ c ≠ '#'
  noAt : c ≠ '@'

theorem hostChar_of_hex (h : (hexValue? c).isSome = true) : HostChar c := by
  have hvisible : 32 < c.toNat := by
    refine Nat.lt_of_not_le fun hle => ?_
    have hall : ∀ n ≤ 32, (hexValue? (Char.ofNat n)).isSome = false := by decide
    have hnone := hall c.toNat hle
    rw [Char.ofNat_toNat, h] at hnone
    exact absurd hnone (by simp)
  refine ⟨hvisible, ⟨?_, ?_, ?_⟩, ?_⟩ <;> rintro rfl <;> exact absurd h (by decide)

/-- **A host has no character that ends it.** -/
theorem HostText.hostChar (h : HostText host) : ∀ c ∈ host, HostChar c := by
  cases h with
  | name hne hallowed hplain =>
    intro c hc
    have hne : ∀ {x}, isForbiddenHost x = true → c ≠ x := ne_of_allowed (hallowed c hc)
    have hcontrol : ¬ c.toNat < 32 := by
      have hset := (hplain c hc).1
      simp only [EncodeSet.controls, Bool.or_eq_false_iff, decide_eq_false_iff_not] at hset
      exact hset.1
    have hblank : c.toNat ≠ 32 := fun heq =>
      hne (x := ' ') (by decide) (by rw [← Char.ofNat_toNat c, heq])
    exact ⟨by omega, ⟨hne (by decide), hne (by decide), hne (by decide)⟩, hne (by decide)⟩
  | @address pieces hvalid =>
    have hbracket : HostChar '[' ∧ HostChar ']' ∧ HostChar ':' :=
      ⟨⟨by decide, by decide, by decide⟩, ⟨by decide, by decide, by decide⟩,
        ⟨by decide, by decide, by decide⟩⟩
    have hinside : ∀ c ∈ ipv6Text pieces, HostChar c := fun c hc =>
      (mem_ipv6Text hc).elim hostChar_of_hex fun hcolon => hcolon ▸ hbracket.2.2
    refine List.forall_mem_cons.mpr ⟨hbracket.1, List.forall_mem_append.mpr ⟨hinside, ?_⟩⟩
    exact List.forall_mem_singleton.mpr hbracket.2.1

theorem splitHost_name (h : ∀ c ∈ before, c ≠ ':' ∧ c ≠ '[' ∧ c ≠ ']') :
    splitHost false (before ++ ':' :: rest) = (before, ':' :: rest) := by
  induction before with
  | nil => rfl
  | cons c before ih =>
    obtain ⟨hcolon, hopen, hclose⟩ := h c List.mem_cons_self
    rw [List.cons_append, splitHost, if_neg (by simp [hcolon]), if_neg hopen, if_neg hclose]
    dsimp only
    rw [ih fun c hc => h c (List.mem_cons_of_mem _ hc)]

theorem splitHost_inside (h : ∀ c ∈ before, c ≠ '[' ∧ c ≠ ']') :
    splitHost true (before ++ ']' :: ':' :: rest) = (before ++ [']'], ':' :: rest) := by
  induction before with
  | nil => rfl
  | cons c before ih =>
    obtain ⟨hopen, hclose⟩ := h c List.mem_cons_self
    rw [List.cons_append, splitHost, if_neg (by simp), if_neg hopen, if_neg hclose]
    dsimp only
    rw [ih fun c hc => h c (List.mem_cons_of_mem _ hc)]
    rfl

/-- **A host ends at the colon of its port.** -/
theorem HostText.split (h : HostText host) (rest : List Char) :
    splitHost false (host ++ ':' :: rest) = (host, ':' :: rest) := by
  cases h with
  | name hne hallowed hplain =>
    exact splitHost_name fun c hc =>
      have hne : ∀ {x}, isForbiddenHost x = true → c ≠ x := ne_of_allowed (hallowed c hc)
      ⟨hne (by decide), hne (by decide), hne (by decide)⟩
  | @address pieces hvalid =>
    have hinside : ∀ c ∈ ipv6Text pieces, c ≠ '[' ∧ c ≠ ']' := fun c hc => by
      constructor <;> rintro rfl <;> exact absurd (mem_ipv6Text hc) (by decide)
    rw [List.cons_append, List.append_assoc, List.singleton_append, splitHost,
      if_neg (by decide), if_pos rfl]
    dsimp only
    rw [splitHost_inside hinside]

/-! ## User and password -/

theorem splitLastAt?_eq_none (h : '@' ∉ cs) : splitLastAt? cs = none := by
  induction cs with
  | nil => rfl
  | cons c cs ih =>
    have hc : c ≠ '@' := fun hc => h (hc ▸ List.mem_cons_self)
    rw [splitLastAt?, ih fun hm => h (List.mem_cons_of_mem _ hm)]
    exact if_neg hc

theorem splitLastAt?_append (before : List Char) (h : '@' ∉ behind) :
    splitLastAt? (before ++ '@' :: behind) = some (before, behind) := by
  induction before with
  | nil =>
    rw [List.nil_append, splitLastAt?, splitLastAt?_eq_none h]
    rfl
  | cons c before ih => rw [List.cons_append, splitLastAt?, ih]

theorem colon_not_mem (h : Plain .userinfo user) : ∀ c ∈ user, (c != ':') = true := fun c hc => by
  have hne : c ≠ ':' := ne_of_set (h c hc).1 (by decide)
  simpa using hne

/-- A user without a password is read as it stands. -/
theorem readUserinfo_of_plain (h : Plain .userinfo user) : readUserinfo user = (user, none) := by
  have htake : (user ++ []).takeWhile (· != ':') = user :=
    takeWhile_run (colon_not_mem h) (by simp)
  have hdrop : (user ++ []).dropWhile (· != ':') = [] :=
    dropWhile_run (colon_not_mem h) (by simp)
  rw [List.append_nil] at htake hdrop
  unfold readUserinfo
  rw [htake, hdrop, encode_of_plain h]

/-- **User and password are read as they stand.** -/
theorem readUserinfo_append (huser : Plain .userinfo user) (hpassword : Plain .userinfo password)
    (hne : password ≠ []) : readUserinfo (user ++ ':' :: password) = (user, some password) := by
  have htake : (user ++ ':' :: password).takeWhile (· != ':') = user :=
    takeWhile_run (colon_not_mem huser) (by simp)
  have hdrop : (user ++ ':' :: password).dropWhile (· != ':') = ':' :: password :=
    dropWhile_run (colon_not_mem huser) (by simp)
  obtain ⟨c, rest, rfl⟩ := List.exists_cons_of_ne_nil hne
  unfold readUserinfo
  rw [htake, hdrop, encode_of_plain huser]
  dsimp only
  rw [encode_of_plain hpassword]

/-- **User and password are encoded**, and a password is not empty. -/
theorem plain_of_userinfo {password? : Option (List Char)}
    (h : readUserinfo cs = (user, password?)) :
    Plain .userinfo user ∧ ∀ password, password? = some password →
      Plain .userinfo password ∧ password ≠ [] := by
  have hencode : ∀ cs, Plain .userinfo (encode .userinfo cs) := plain_encode (by decide)
  unfold readUserinfo at h
  dsimp only at h
  split at h
  · obtain ⟨rfl, rfl⟩ := Prod.mk.inj h
    refine ⟨hencode _, ?_⟩
    rintro _ ⟨⟩
    exact ⟨hencode _, fun hnil => absurd (encode_eq_nil_iff.mp hnil) (by simp)⟩
  · obtain ⟨rfl, rfl⟩ := Prod.mk.inj h
    exact ⟨hencode _, by simp⟩

/-! ## Ports -/

/-- **A port is read back.** -/
theorem readPort_natText (hn : n ≤ 65535) (rest : List Char) :
    readPort (natText n ++ '/' :: rest) = .ok (some n, '/' :: rest) := by
  have hstops : Stops ('/' :: rest) := stops_cons.mpr (by decide)
  have hne : (natText n).isEmpty = false := by simp [natText]
  unfold readPort
  rw [takeWhile_natText n hstops, dropWhile_natText n hstops]
  dsimp only
  rw [digitsValue_natText, if_neg (Nat.not_lt.mpr hn), hne]
  rfl

theorem readPort_le (h : readPort cs = .ok (some n, rest)) : n ≤ 65535 := by
  unfold readPort at h
  dsimp only at h
  split at h
  · exact absurd h (by simp)
  rename_i hle
  have hport {digits behind : List Char} (hle : ¬ 65535 < digitsValue digits)
      (h : (if digits.isEmpty then none else some (digitsValue digits), behind) =
        (some n, rest)) : n ≤ 65535 := by
    obtain ⟨hn, -⟩ := Prod.mk.inj h
    split at hn
    · exact absurd hn (by simp)
    · obtain rfl := Option.some.inj hn
      exact Nat.le_of_not_lt hle
  split at h
  · exact hport hle (Except.ok.inj h)
  · split at h
    · exact hport hle (Except.ok.inj h)
    · exact absurd h (by simp)

/-! ## The form of what is read -/

/-- Parts of a URL as reading leaves them. -/
structure Normal (u : Parts) : Prop where
  user : Plain .userinfo u.user
  password : ∀ password, u.password = some password → Plain .userinfo password ∧ password ≠ []
  host : ∀ host, u.host = some host → HostText host
  port : ∀ n, u.port = some n → n ≤ 65535
  path : ∀ path, u.path = '/' :: path → PathText path

theorem plain_of_login {authority : List Char} {password? : Option (List Char)}
    (h : readLogin authority behind = .ok (user, password?, rest)) :
    Plain .userinfo user ∧ ∀ password, password? = some password →
      Plain .userinfo password ∧ password ≠ [] := by
  have hempty : Plain .userinfo [] := by decide
  unfold readLogin at h
  split at h
  · obtain ⟨rfl, hrest⟩ := Prod.mk.inj (Except.ok.inj h)
    obtain ⟨rfl, -⟩ := Prod.mk.inj hrest
    exact ⟨hempty, by simp⟩
  · split at h
    · exact absurd h (by simp)
    · obtain ⟨rfl, hrest⟩ := Prod.mk.inj (Except.ok.inj h)
      obtain ⟨rfl, -⟩ := Prod.mk.inj hrest
      exact ⟨hempty, by simp⟩
  · obtain ⟨rfl, hrest⟩ := Prod.mk.inj (Except.ok.inj h)
    obtain ⟨rfl, -⟩ := Prod.mk.inj hrest
    exact plain_of_userinfo rfl

theorem port_le {portText : List Char} {port? : Option Nat}
    (h : readPortPart portText behind = .ok (port?, rest)) : ∀ n, port? = some n → n ≤ 65535 := by
  unfold readPortPart at h
  split at h
  · rintro n rfl
    exact readPort_le h
  · obtain ⟨rfl, -⟩ := Prod.mk.inj (Except.ok.inj h)
    simp

theorem scheme_of_authority {scheme : List Char} {u : Parts}
    (h : readAuthority scheme cs = .ok u) : u.scheme = scheme := by
  unfold readAuthority at h
  obtain ⟨_, -, h⟩ := ok_of_bind h
  obtain ⟨_, -, h⟩ := ok_of_bind h
  obtain ⟨_, -, h⟩ := ok_of_bind h
  obtain ⟨_, -, h⟩ := ok_of_bind h
  obtain ⟨_, -, h⟩ := ok_of_bind h
  obtain rfl := Except.ok.inj h
  rfl

/-- What is read behind two slashes is in its form. -/
theorem normal_of_authority {scheme : List Char} {u : Parts} (hscheme : schemeKind scheme = .other)
    (h : readAuthority scheme cs = .ok u) : Normal u := by
  unfold readAuthority at h
  rw [hscheme] at h
  obtain ⟨⟨user, password?, hostPort⟩, hlogin, h⟩ := ok_of_bind h
  obtain ⟨host, hhost, h⟩ := ok_of_bind h
  obtain ⟨-, -, h⟩ := ok_of_bind h
  obtain ⟨⟨port?, rest⟩, hport, h⟩ := ok_of_bind h
  obtain ⟨-, -, h⟩ := ok_of_bind h
  obtain rfl := Except.ok.inj h
  obtain ⟨huser, hpassword⟩ := plain_of_login hlogin
  refine ⟨huser, hpassword, fun name hname => ?_, fun n hn => ?_, fun path => pathText_of_read⟩
  · dsimp only at hname
    split at hname
    · exact absurd hname (by simp)
    · rename_i hne
      obtain rfl := Option.some.inj hname
      exact hostText_of_read hhost (by simpa using hne)
  · dsimp only at hn
    split at hn
    · exact absurd hn (by simp)
    · exact port_le hport n hn

/-- What begins with no slash is encoded to a path that begins with none. -/
theorem head_encode {p : Char → Bool} {path : List Char} (hslash : ∀ rest, cs ≠ '/' :: rest) :
    encode .controls (cs.takeWhile p) ≠ '/' :: path := by
  intro h
  cases cs with
  | nil => exact absurd h (by simp [encode])
  | cons c cs =>
    rw [List.takeWhile_cons] at h
    split at h
    · rw [encode, List.flatMap_cons] at h
      rcases encodeChar_cases .controls c with ⟨-, -, henc⟩ | ⟨-, henc⟩
      · rw [henc] at h
        obtain rfl := (List.cons.inj h).1
        exact hslash cs rfl
      · obtain ⟨b, bs, hb⟩ := List.exists_cons_of_ne_nil (utf8EncodeChar_ne_nil c)
        rw [henc, hb] at h
        exact absurd (List.cons.inj h).1 (by decide)
    · exact absurd h (by simp [encode])

/-- **The parts of a URL are in their form**, if its scheme is not one of the web. -/
theorem normal_of_read {u : Parts} (h : read cs = .ok u) (hscheme : schemeKind u.scheme = .other) :
    Normal u := by
  have hplain : Plain .userinfo [] := by decide
  unfold read at h
  split at h
  · exact absurd h (by simp)
  rename_i scheme rest hsplit
  split at h
  · rename_i hkind
    have hu : u.scheme = scheme := by
      split at h
      · obtain ⟨-, -, rfl⟩ := ok_of_map h
        rfl
      · obtain rfl := Except.ok.inj h
        rfl
    rw [hu, hkind] at hscheme
    exact absurd hscheme (by simp)
  · rename_i hkind _
    obtain rfl := Except.ok.inj h
    exact absurd (hkind.symm.trans hscheme) (by simp)
  · rename_i hkind
    rw [scheme_of_authority h, hkind] at hscheme
    exact absurd hscheme (by simp)
  · rename_i hkind
    exact normal_of_authority hkind h
  · obtain rfl := Except.ok.inj h
    refine ⟨hplain, by simp, by simp, by simp, fun path hpath => ?_⟩
    dsimp only at hpath
    exact pathText_of_read hpath
  · rename_i hslash
    obtain rfl := Except.ok.inj h
    exact ⟨hplain, by simp, by simp, by simp, fun path hpath => absurd hpath (head_encode hslash)⟩

/-! ## Putting parts together -/

/-- User and password in front of a host, as they stand in a URL. -/
inductive LoginText : List Char → List Char → Option (List Char) → Prop
  | absent : LoginText [] [] none
  | user {user : List Char} (plain : Plain .userinfo user) (nonempty : user ≠ []) :
      LoginText (user ++ ['@']) user none
  | both {user password : List Char} (plain : Plain .userinfo user) (nonempty : user ≠ [])
      (secret : Plain .userinfo password) (given : password ≠ []) :
      LoginText (user ++ ':' :: (password ++ ['@'])) user (some password)

variable {text : List Char} {password? : Option (List Char)} {scheme path : List Char}

/-- A visible character that ends no authority. -/
structure AuthorityChar (c : Char) : Prop where
  visible : 32 < c.toNat
  noEnd : c ≠ '/' ∧ c ≠ '?' ∧ c ≠ '#'

theorem LoginText.authorityChar (h : LoginText text user password?) :
    ∀ c ∈ text, AuthorityChar c := by
  have hplain : ∀ {cs}, Plain .userinfo cs → ∀ c ∈ cs, AuthorityChar c := fun hcs c hc =>
    ⟨visible_of_path (path_of_userinfo (hcs c hc).1), ne_of_set (hcs c hc).1 (by decide),
      ne_of_set (hcs c hc).1 (by decide), ne_of_set (hcs c hc).1 (by decide)⟩
  have hat : AuthorityChar '@' := ⟨by decide, by decide⟩
  have hcolon : AuthorityChar ':' := ⟨by decide, by decide⟩
  cases h with
  | absent => exact List.forall_mem_nil _
  | user huser =>
    exact List.forall_mem_append.mpr ⟨hplain huser, List.forall_mem_singleton.mpr hat⟩
  | both huser hne hpassword =>
    refine List.forall_mem_append.mpr ⟨hplain huser, List.forall_mem_cons.mpr ⟨hcolon, ?_⟩⟩
    exact List.forall_mem_append.mpr ⟨hplain hpassword, List.forall_mem_singleton.mpr hat⟩

/-- **User and password in front of a host are read as they stand.** -/
theorem LoginText.read (h : LoginText text user password?) (hrest : '@' ∉ rest)
    (behind : List Char) : readLogin (text ++ rest) behind = .ok (user, password?, rest) := by
  unfold readLogin
  cases h with
  | absent => rw [List.nil_append, splitLastAt?_eq_none hrest]
  | user huser hne =>
    obtain ⟨c, cs, rfl⟩ := List.exists_cons_of_ne_nil hne
    rw [List.append_assoc, List.singleton_append, splitLastAt?_append _ hrest]
    dsimp only
    rw [readUserinfo_of_plain huser]
  | @both user password huser hne hpassword hsome =>
    obtain ⟨c, cs, rfl⟩ := List.exists_cons_of_ne_nil hne
    have hcut : (c :: cs) ++ ':' :: (password ++ ['@']) ++ rest =
        (c :: cs ++ ':' :: password) ++ '@' :: rest := by simp
    have hinfo := readUserinfo_append huser hpassword hsome
    rw [hcut, splitLastAt?_append _ hrest]
    rw [List.cons_append] at hinfo ⊢
    dsimp only
    rw [hinfo]

/-- Neither host nor port has a character that ends them. -/
theorem hostChar_place (hhost : HostText host) (n : Nat) :
    ∀ c ∈ host ++ ':' :: natText n, HostChar c := by
  have hdigit : ∀ c ∈ natText n, HostChar c := fun c hc => by
    refine hostChar_of_hex ?_
    have hc := isAsciiDigit_of_mem_natText hc
    rw [isAsciiDigit, Bool.and_eq_true, decide_eq_true_eq, decide_eq_true_eq] at hc
    rw [hexValue?, if_pos hc]
    rfl
  exact List.forall_mem_append.mpr ⟨hhost.hostChar, List.forall_mem_cons.mpr
    ⟨⟨by decide, by decide, by decide⟩, hdigit⟩⟩

theorem authorityChar_of_parts (hlogin : LoginText text user password?) (hhost : HostText host)
    (n : Nat) : ∀ c ∈ text ++ (host ++ ':' :: natText n), AuthorityChar c :=
  List.forall_mem_append.mpr ⟨hlogin.authorityChar, fun c hc =>
    ⟨(hostChar_place hhost n c hc).visible, (hostChar_place hhost n c hc).noEnd⟩⟩

/-- The authority, and the path behind it. -/
theorem parts_eq_authority_append (text host : List Char) (n : Nat) (path : List Char) :
    text ++ (host ++ ':' :: (natText n ++ '/' :: path)) =
      text ++ (host ++ ':' :: natText n) ++ '/' :: path := by simp

/-- An authority ends at the path. -/
theorem splitAuthority_of_parts (hlogin : LoginText text user password?) (hhost : HostText host)
    (n : Nat) (path : List Char) :
    splitAuthority false (text ++ (host ++ ':' :: (natText n ++ '/' :: path))) =
      (text ++ (host ++ ':' :: natText n), '/' :: path) := by
  have hkeep : ∀ c ∈ text ++ (host ++ ':' :: natText n),
      (!(c == '/' || c == '?' || c == '#' || (false && c == '\\'))) = true := fun c hc => by
    obtain ⟨hslash, hquery, hfragment⟩ := (authorityChar_of_parts hlogin hhost n c hc).noEnd
    simp [hslash, hquery, hfragment]
  rw [parts_eq_authority_append]
  exact Prod.ext (takeWhile_run hkeep (by simp)) (dropWhile_run hkeep (by simp))

/-- **Parts in their form, put together, are read back as they are.** -/
theorem readAuthority_of_parts (hscheme : schemeKind scheme = .other)
    (hport : impliedPort scheme = none) (hlogin : LoginText text user password?)
    (hhost : HostText host) (hn : n ≤ 65535) (hpath : PathText path) :
    readAuthority scheme (text ++ (host ++ ':' :: (natText n ++ '/' :: path))) =
      .ok { scheme, user, password := password?, host := some host, port := some n,
            path := '/' :: path } := by
  have hempty : host.isEmpty = false := by simpa using hhost.ne_nil
  have hneed : ∀ needless, needHost host needless = .ok () := fun needless => by
    rw [needHost, hempty]
    rfl
  have hat : '@' ∉ host ++ ':' :: natText n := fun hm => (hostChar_place hhost n '@' hm).noAt rfl
  have hread : readHost false host = .ok host := hhost.read
  have hportPart : readPortPart (':' :: natText n) ('/' :: path) = .ok (some n, '/' :: path) :=
    readPort_natText hn path
  unfold readAuthority
  rw [hscheme]
  dsimp only
  rw [show (SchemeKind.other != SchemeKind.other) = false from rfl,
    splitAuthority_of_parts hlogin hhost n path]
  dsimp only
  rw [bind_of_ok (hlogin.read hat _)]
  dsimp only
  rw [hhost.split]
  dsimp only
  rw [bind_of_ok hread, bind_of_ok (hneed _), bind_of_ok hportPart]
  dsimp only
  rw [bind_of_ok (hneed _), hempty, hport, readPath_of_pathText hpath, readQuery_of_pathText hpath]
  rfl

/-- A text of visible characters stays as it is. -/
theorem clean_of_visible (h : ∀ c ∈ cs, 32 < c.toNat) : clean cs = cs := by
  have hdrop : ∀ {cs : List Char}, (∀ c ∈ cs, 32 < c.toNat) →
      ([] ++ cs).dropWhile (fun c => decide (c.toNat ≤ 32)) = cs := fun hcs =>
    dropWhile_run (List.forall_mem_nil _) fun c hc => by
      have hc := hcs c (List.mem_of_mem_head? hc)
      simpa using hc
  have hkeep : ∀ c ∈ cs, (c != '\t' && c != '\n' && c != '\r') = true := fun c hc => by
    have hc := h c hc
    have hne : ∀ x : Char, x.toNat ≤ 32 → c ≠ x := by
      rintro x hx rfl
      omega
    simp [hne '\t' (by decide), hne '\n' (by decide), hne '\r' (by decide)]
  have hreverse : ∀ c ∈ cs.reverse, 32 < c.toNat := fun c hc => h c (List.mem_reverse.mp hc)
  have hfront := hdrop h
  have hback := hdrop hreverse
  rw [List.nil_append] at hfront hback
  unfold clean
  dsimp only
  rw [hfront, hback, List.reverse_reverse, List.filter_eq_self.mpr hkeep]

/-- All characters of parts in their form are visible. -/
theorem visible_of_parts (hlogin : LoginText text user password?) (hhost : HostText host) (n : Nat)
    (hpath : PathText path) :
    ∀ c ∈ text ++ (host ++ ':' :: (natText n ++ '/' :: path)), 32 < c.toNat := by
  rw [parts_eq_authority_append]
  have hauthority := authorityChar_of_parts hlogin hhost n
  refine List.forall_mem_append.mpr ⟨fun c hc => (hauthority c hc).visible,
    List.forall_mem_cons.mpr ⟨by decide, fun c hc => ?_⟩⟩
  rcases mem_pathText hpath hc with rfl | ⟨hset, -⟩
  · decide
  · exact visible_of_path hset

end QueryGate.Url
