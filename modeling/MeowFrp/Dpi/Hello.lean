import MeowFrp.Dpi.Bounds

/-!
# ClientHello messages

The layout of a ClientHello (numbers in network order, vectors behind their length), and that the parser reads a
server name back from it. What is left of a slice at a position (`Left`) says what the next read returns, and the
loop over the extensions keeps that what is left is a list of extensions whose first `server_name` is that of the
whole list.
-/

namespace MeowFrp.Dpi.Engine

open Lib List

/-! ## The layout -/

/-- A number of two bytes. -/
def u16 (n : Nat) : Bytes := [UInt8.ofNat (n / 256), UInt8.ofNat n]

/-- A number of three bytes. -/
def u24 (n : Nat) : Bytes := [UInt8.ofNat (n / 65536), UInt8.ofNat (n / 256), UInt8.ofNat n]

/-- A vector behind its length in one byte. -/
def vec8 (content : Bytes) : Bytes := UInt8.ofNat content.length :: content

/-- A vector behind its length in two bytes. -/
def vec16 (content : Bytes) : Bytes := u16 content.length ++ content

/-- An entry of a list of server names. The type of a host name is 0. -/
structure ServerName where
  nameType : UInt8
  name : Bytes

def ServerName.encode (entry : ServerName) : Bytes := entry.nameType :: vec16 entry.name

/-- An extension. The type of `server_name` is 0. -/
structure Extension where
  extensionType : Nat
  data : Bytes
  typed : extensionType < 65536
  sized : data.length < 65536

namespace Extension

def encode (x : Extension) : Bytes := u16 x.extensionType ++ vec16 x.data

/-- The extension is a `server_name` with these entries. -/
def ListsNames (x : Extension) (entries : List ServerName) : Prop :=
  x.extensionType = 0 ∧ x.data = vec16 (entries.flatMap ServerName.encode)

end Extension

/-- A ClientHello; the vector of extensions may be missing. -/
structure ClientHello where
  legacyVersion : Nat
  random : Bytes
  sessionId : Bytes
  cipherSuites : Bytes
  compressionMethods : Bytes
  extensions : Option (List Extension)
  random_length : random.length = 32
  sessionId_length : sessionId.length < 256
  cipherSuites_length : cipherSuites.length < 65536
  compressionMethods_length : compressionMethods.length < 256
  extensions_length : ∀ xs, extensions = some xs → (xs.flatMap Extension.encode).length < 65536

namespace ClientHello

def encodeExtensions (hello : ClientHello) : Bytes :=
  match hello.extensions with
  | none => []
  | some xs => vec16 (xs.flatMap Extension.encode)

/-- The message after its length. -/
def body (hello : ClientHello) : Bytes :=
  u16 hello.legacyVersion ++ (hello.random ++ (vec8 hello.sessionId ++ (vec16 hello.cipherSuites ++
    (vec8 hello.compressionMethods ++ hello.encodeExtensions))))

/-- The handshake message. -/
def handshake (hello : ClientHello) : Bytes := 1 :: (u24 hello.body.length ++ hello.body)

/-- The record that holds the message and nothing else. -/
def record (hello : ClientHello) (version : Nat) : Bytes := 0x16 :: (u16 version ++ vec16 hello.handshake)

end ClientHello

/-! ## What is left -/

variable {data rest : Bytes} {pos : Nat}

/-- What is left of a slice at a position. -/
def Left (data : Bytes) (pos : Nat) (rest : Bytes) : Prop := ∃ done, data = done ++ rest ∧ done.length = pos

namespace Left

lemma start : Left data 0 data := ⟨[], rfl, rfl⟩

/-- What is left ends the text. -/
lemma length (left : Left data pos rest) : data.length = pos + rest.length := by
  obtain ⟨_, rfl, rfl⟩ := left
  exact length_append

/-- A part is skipped. -/
lemma skip {part : Bytes} {next : Nat} (left : Left data pos (part ++ rest)) (size : pos + part.length = next) :
    Left data next rest := by
  obtain ⟨done, rfl, rfl⟩ := left
  refine ⟨done ++ part, (append_assoc _ _ _).symm, ?_⟩
  rw [length_append, size]

lemma skip_one {b : UInt8} (left : Left data pos (b :: rest)) : Left data (pos + 1) rest := by
  have left : Left data pos ([b] ++ rest) := left
  exact left.skip rfl

/-- The next byte. -/
lemma index {b : UInt8} (left : Left data pos (b :: rest)) : index data pos = .ok b := by
  obtain ⟨_, rfl, rfl⟩ := left
  unfold Engine.index
  rw [List.getElem?_append_right (Nat.le_refl _), Nat.sub_self]
  rfl

/-- The next part. -/
lemma slice {part : Bytes} {next : Nat} (left : Left data pos (part ++ rest)) (size : pos + part.length = next) :
    slice data pos next = .ok part := by
  obtain ⟨_, rfl, rfl⟩ := left
  subst size
  rw [slice_eq (Nat.le_add_right _ _) (by simp only [length_append]; omega), drop_left,
    Nat.add_sub_cancel_left, take_left]

end Left

variable {n : Nat} {x : Extension} {xs : List Extension}

lemma length_u16 : (u16 n).length = 2 := rfl

lemma uint16_u16 (small : n < 65536) : uint16 (u16 n) = .ok n := by
  have high : (UInt8.ofNat (n / 256)).toNat = n / 256 := UInt8.toNat_ofNat_of_lt' (by show _ < 256; omega)
  have low : (UInt8.ofNat n).toNat = n % 256 := UInt8.toNat_ofNat'
  change Except.ok ((UInt8.ofNat (n / 256)).toNat * 256 + (UInt8.ofNat n).toNat) = .ok n
  rw [high, low]
  congr 1
  omega

/-! ## Extensions -/

/-- The extension that the parser takes for `server_name`. -/
def firstServerName (xs : List Extension) : Except Fault Bytes :=
  match xs.find? (·.extensionType = 0) with
  | some x => parseSNIExtension x.data
  | none => .ok []

/-- Other extensions are skipped. -/
lemma firstServerName_skip (other : x.extensionType ≠ 0) :
    firstServerName (x :: xs) = firstServerName xs := by
  unfold firstServerName
  rw [List.find?_cons_of_neg (by simpa using other)]

/-- The first server name is taken. -/
lemma firstServerName_take (names : x.extensionType = 0) :
    firstServerName (x :: xs) = parseSNIExtension x.data := by
  unfold firstServerName
  rw [List.find?_cons_of_pos (by simpa using names)]

lemma firstServerName_append {before after : List Extension} (others : ∀ x ∈ before, x.extensionType ≠ 0) :
    firstServerName (before ++ after) = firstServerName after := by
  have none : before.find? (·.extensionType = 0) = none := by simpa using others
  unfold firstServerName
  rw [List.find?_append, none, Option.none_or]

lemma length_encode : x.encode.length = 4 + x.data.length := by
  unfold Extension.encode vec16
  simp only [length_append, length_u16]
  omega

/-- One extension is read, and the rest is left. -/
lemma parseExtension_eq (left : Left data pos (x.encode ++ rest)) :
    parseExtension data data.length pos = if x.extensionType = 0 then (parseSNIExtension x.data).map .inr
      else .ok (.inl (pos + x.encode.length)) := by
  have left : Left data pos (u16 x.extensionType ++ (u16 x.data.length ++ (x.data ++ rest))) := by
    simpa [Extension.encode, vec16] using left
  have left' : Left data (pos + 2) (u16 x.data.length ++ (x.data ++ rest)) := left.skip rfl
  have left'' : Left data (pos + 4) (x.data ++ rest) := left'.skip rfl
  have fits : ¬data.length < pos + 4 + x.data.length := by
    rw [left''.length, length_append]
    omega
  have type : slice data pos (pos + 2) = .ok (u16 x.extensionType) := left.slice rfl
  have size : slice data (pos + 2) (pos + 4) = .ok (u16 x.data.length) := left'.slice rfl
  unfold parseExtension
  rw [type, ok_bind, uint16_u16 x.typed, ok_bind, size, ok_bind, uint16_u16 x.sized, ok_bind, length_encode]
  dsimp only
  rw [if_neg fits, left''.slice rfl, ok_bind]
  split
  · cases parseSNIExtension x.data with
    | error | ok => rfl
  · rw [Nat.add_assoc]
    rfl

/-- The extensions up to the end of the record. -/
lemma parseExtensions_eq (left : Left data pos (xs.flatMap Extension.encode)) :
    Returns (parseExtensions data data.length pos) (firstServerName xs = .ok ·) := by
  -- what is left is a list of extensions with the same first `server_name`
  refine loop_returns (fun pos => ∃ ys : List Extension, Left data pos (ys.flatMap Extension.encode) ∧
    firstServerName ys = firstServerName xs) (fun pos => data.length - pos) ?_ ⟨xs, left, rfl⟩ (Nat.sub_le _ _)
  rintro pos ⟨ys, left, same⟩
  rw [← same]
  cases ys with
  | nil =>
    have ended : data.length = pos := left.length
    refine .ok ⟨fun header => ?_, fun _ => rfl⟩
    rw [decide_eq_true_eq] at header
    omega
  | cons x ys =>
    rw [flatMap_cons] at left
    have size := left.length
    rw [length_append, length_encode] at size
    refine .ok ⟨fun _ => ⟨by omega, ?_⟩, fun ended => ?_⟩
    · rw [parseExtension_eq left]
      refine .ite (fun names => ?_) fun other => .ok ⟨⟨ys, left.skip rfl, (firstServerName_skip other).symm⟩, ?_⟩
      · obtain ⟨name, parsed, _⟩ : Returns (parseSNIExtension x.data) _ := parseSNIExtension_returns
        rw [parsed]
        exact .ok ((firstServerName_take names).trans parsed)
      · rw [length_encode]
        omega
    · rw [decide_eq_false_iff_not] at ended
      omega

/-- The first entry of the list is a host name. -/
lemma parseSNIExtension_eq {name : Bytes} {others : List ServerName}
    (lists : x.ListsNames (⟨0, name⟩ :: others)) (named : name ≠ []) : parseSNIExtension x.data = .ok name := by
  have positive : 0 < name.length := length_pos_iff.mpr named
  have sized := x.sized
  obtain ⟨_, content⟩ := lists
  rw [flatMap_cons] at content
  generalize x.data = data at content sized ⊢
  generalize others.flatMap ServerName.encode = more at content
  have layout : data = u16 (3 + name.length + more.length) ++ (0 :: (u16 name.length ++ (name ++ more))) := by
    have total : (ServerName.encode ⟨0, name⟩ ++ more).length = 3 + name.length + more.length := by
      simp only [ServerName.encode, vec16, length_append, length_cons, length_u16]
      omega
    rw [content, vec16, total]
    simp only [ServerName.encode, vec16, cons_append, append_assoc]
  have list : Left data 0 (u16 (3 + name.length + more.length) ++ (0 :: (u16 name.length ++ (name ++ more)))) :=
    ⟨[], layout, rfl⟩
  have entry : Left data 2 (0 :: (u16 name.length ++ (name ++ more))) := list.skip rfl
  have host : Left data 3 (u16 name.length ++ (name ++ more)) := entry.skip_one
  have value : Left data 5 (name ++ more) := host.skip rfl
  have length : data.length = 5 + (name.length + more.length) := by rw [value.length, length_append]
  have listLen : slice data 0 2 = .ok (u16 (3 + name.length + more.length)) := list.slice rfl
  have nameLen : slice data 3 5 = .ok (u16 name.length) := host.slice rfl
  have stop : min (2 + (3 + name.length + more.length)) data.length = data.length := by omega
  have fits : (decide ((0 : UInt8) = 0) && decide (0 < name.length) && decide (5 + name.length ≤ data.length)) =
      true := by
    simp only [Bool.and_eq_true, decide_eq_true_eq]
    exact ⟨⟨trivial, positive⟩, by omega⟩
  unfold parseSNIExtension
  rw [if_neg (by omega), listLen, ok_bind, uint16_u16 (by omega), ok_bind]
  dsimp only
  rw [stop, if_neg (by omega), entry.index, ok_bind, nameLen, ok_bind, uint16_u16 (by omega), ok_bind, if_pos fits]
  exact value.slice rfl

/-! ## The message -/

lemma length_vec8 {content : Bytes} : (vec8 content).length = 1 + content.length := Nat.add_comm _ _

lemma length_vec16 {content : Bytes} : (vec16 content).length = 2 + content.length := by
  unfold vec16
  rw [length_append]
  rfl

lemma toNat_u24 (small : n < 16777216) :
    (UInt8.ofNat (n / 65536)).toNat * 65536 + (UInt8.ofNat (n / 256)).toNat * 256 + (UInt8.ofNat n).toNat = n := by
  simp only [UInt8.toNat_ofNat']
  omega

namespace ClientHello

variable {hello : ClientHello}

/-- The message is read up to its extensions. -/
lemma parse_handshake (fits : hello.handshake.length ≤ 16384) :
    Returns (parseClientHelloRecord hello.handshake) (firstServerName (hello.extensions.getD []) = .ok ·) := by
  have size : hello.body.length = 2 + (32 + (1 + hello.sessionId.length + (2 + hello.cipherSuites.length +
      (1 + hello.compressionMethods.length + hello.encodeExtensions.length)))) := by
    unfold body
    simp only [length_append, length_u16, hello.random_length, length_vec8, length_vec16]
  have message : Left hello.handshake 4 hello.body := ⟨1 :: u24 hello.body.length, rfl, rfl⟩
  have total := message.length
  have random : Left hello.handshake 6 _ := message.skip rfl
  have sessionId : Left hello.handshake 38 _ := random.skip (by rw [hello.random_length])
  have cipherSuites : Left hello.handshake (38 + (1 + hello.sessionId.length)) _ :=
    sessionId.skip (by rw [length_vec8])
  have compressionMethods :
      Left hello.handshake (38 + (1 + hello.sessionId.length) + (2 + hello.cipherSuites.length)) _ :=
    cipherSuites.skip (by rw [length_vec16])
  have extensions : Left hello.handshake (38 + (1 + hello.sessionId.length) + (2 + hello.cipherSuites.length) +
      (1 + hello.compressionMethods.length)) hello.encodeExtensions :=
    compressionMethods.skip (by rw [length_vec8])
  have sidLen : (UInt8.ofNat hello.sessionId.length).toNat = hello.sessionId.length :=
    UInt8.toNat_ofNat_of_lt' hello.sessionId_length
  have compLen : (UInt8.ofNat hello.compressionMethods.length).toNat = hello.compressionMethods.length :=
    UInt8.toNat_ofNat_of_lt' hello.compressionMethods_length
  have csLen : slice hello.handshake (38 + (1 + hello.sessionId.length)) (38 + (1 + hello.sessionId.length) + 2) =
      .ok (u16 hello.cipherSuites.length) := by
    rw [vec16, append_assoc] at cipherSuites
    exact cipherSuites.slice rfl
  unfold parseClientHelloRecord
  rw [if_neg (by omega), show index hello.handshake 0 = .ok 1 from rfl, ok_bind, if_neg (by decide),
    show index hello.handshake 1 = .ok _ from rfl, ok_bind, show index hello.handshake 2 = .ok _ from rfl, ok_bind,
    show index hello.handshake 3 = .ok _ from rfl, ok_bind, toNat_u24 (by omega)]
  dsimp only
  rw [if_neg (by omega), if_neg (by omega), if_neg (by omega), sessionId.index, ok_bind, sidLen, if_neg (by omega),
    csLen, ok_bind, uint16_u16 hello.cipherSuites_length, ok_bind, if_neg (by omega), compressionMethods.index,
    ok_bind, compLen]
  generalize 38 + (1 + hello.sessionId.length) + (2 + hello.cipherSuites.length) +
    (1 + hello.compressionMethods.length) = pos at extensions
  have total := extensions.length
  unfold encodeExtensions at extensions total
  cases offered : hello.extensions with
  | none =>
    rw [offered] at total
    rw [if_pos (by rw [total]; exact Nat.lt_add_of_pos_right Nat.zero_lt_two)]
    exact .ok rfl
  | some xs =>
    rw [offered] at extensions total
    change Left _ _ (u16 _ ++ xs.flatMap Extension.encode) at extensions
    have extLen : slice hello.handshake pos (pos + 2) = .ok (u16 (xs.flatMap Extension.encode).length) :=
      extensions.slice rfl
    have left : Left hello.handshake (pos + 2) (xs.flatMap Extension.encode) := extensions.skip rfl
    rw [if_neg (by rw [total, length_vec16]; omega), extLen, ok_bind, uint16_u16 (hello.extensions_length xs offered),
      ok_bind, Nat.min_eq_right (Nat.le_of_eq left.length)]
    exact parseExtensions_eq left

/-- The record is found at its first byte. -/
lemma parse_record {version : Nat} {tail : Bytes} (recent : 0x0301 ≤ version) (small : version < 65536)
    (fits : hello.handshake.length ≤ 16384) :
    parseRecord (hello.record version ++ tail) 0 = parseClientHelloRecord hello.handshake >>= fun sni =>
      if sni ≠ [] then .ok (.inr sni) else .ok (.inl (5 + hello.handshake.length)) := by
  have positive : 0 < hello.handshake.length := Nat.succ_pos _
  have header : Left (hello.record version ++ tail) 1 (u16 version ++ (u16 hello.handshake.length ++
      (hello.handshake ++ tail))) := by
    refine ⟨[0x16], ?_, rfl⟩
    simp [record, vec16]
  have length : Left (hello.record version ++ tail) 3 _ := header.skip rfl
  have message : Left (hello.record version ++ tail) 5 _ := length.skip rfl
  have complete : ¬(hello.record version ++ tail).length < 5 + hello.handshake.length := by
    rw [message.length, length_append]
    omega
  have sized : ¬(decide (hello.handshake.length = 0) || decide (16384 < hello.handshake.length)) = true := by
    rw [Bool.or_eq_true, decide_eq_true_eq, decide_eq_true_eq]
    omega
  have versionRead : slice (hello.record version ++ tail) 1 3 = .ok (u16 version) := header.slice rfl
  have lengthRead : slice (hello.record version ++ tail) 3 5 = .ok (u16 hello.handshake.length) := length.slice rfl
  have messageRead : slice (hello.record version ++ tail) 5 (5 + hello.handshake.length) = .ok hello.handshake :=
    message.slice rfl
  unfold parseRecord
  rw [show index (hello.record version ++ tail) 0 = .ok 0x16 from rfl, ok_bind, if_neg (by decide)]
  simp only [Nat.zero_add]
  rw [versionRead, ok_bind, uint16_u16 small, ok_bind, if_neg (by omega), lengthRead, ok_bind,
    uint16_u16 (by omega), ok_bind, if_neg sized, if_neg complete, messageRead, ok_bind]
  rfl

/-- The search ends with the first record, or goes on after it. -/
lemma parse_eq {version : Nat} (tail : Bytes) (recent : 0x0301 ≤ version) (small : version < 65536)
    (fits : hello.handshake.length ≤ 16384) :
    ∃ fuel, parseTLSClientHelloSNI (hello.record version ++ tail) =
      parseClientHelloRecord hello.handshake >>= fun sni => if sni ≠ [] then .ok sni else
        loop .iterations (fun offset => .ok (decide (offset + 5 ≤ (hello.record version ++ tail).length)))
          (parseRecord (hello.record version ++ tail)) (fun _ => []) fuel (5 + hello.handshake.length) := by
  refine ⟨(u16 version ++ vec16 hello.handshake ++ tail).length, ?_⟩
  refine loop_succ.trans ?_
  have header : 0 + 5 ≤ (hello.record version ++ tail).length := by
    simp only [record, vec16, length_append, length_cons, length_u16]
    omega
  rw [ok_bind, if_pos (decide_eq_true header), parse_record recent small fits]
  cases parseClientHelloRecord hello.handshake with
  | error => rfl
  | ok =>
    rw [ok_bind, ok_bind]
    split
    · rfl
    · rfl

end ClientHello

/-- The parser reads the host name of a well-formed ClientHello, wherever its extension stands and whatever follows
the record; in a record without the extension it finds nothing. -/
theorem server_name_read_back (hello : ClientHello) (version : Nat) (recent : 0x0301 ≤ version)
    (small : version < 65536) (fits : hello.handshake.length ≤ 16384) :
    (∀ before x after name others tail, hello.extensions = some (before ++ x :: after) →
        (∀ y ∈ before, y.extensionType ≠ 0) → x.ListsNames (⟨0, name⟩ :: others) → name ≠ [] →
        parseTLSClientHelloSNI (hello.record version ++ tail) = .ok name) ∧
      ((∀ x ∈ hello.extensions.getD [], x.extensionType ≠ 0) →
        parseTLSClientHelloSNI (hello.record version) = .ok []) := by
  obtain ⟨_, parsed, first⟩ : Returns (parseClientHelloRecord hello.handshake) _ := hello.parse_handshake fits
  constructor
  · intro before x after name others tail offered skipped lists named
    rw [offered, Option.getD_some, firstServerName_append skipped, firstServerName_take lists.1,
      parseSNIExtension_eq lists named] at first
    cases first
    obtain ⟨_, run⟩ := hello.parse_eq tail recent small fits
    rw [run, parsed, ok_bind, if_pos named]
  · intro absent
    rw [← append_nil (hello.extensions.getD []), firstServerName_append absent] at first
    cases first
    obtain ⟨_, run⟩ := hello.parse_eq [] recent small fits
    rw [append_nil] at run
    rw [run, parsed, ok_bind, if_neg (by simp)]
    have ended : ¬5 + hello.handshake.length + 5 ≤ (hello.record version).length := by
      simp only [ClientHello.record, length_cons, length_append, length_u16, length_vec16]
      omega
    exact loop_done (congrArg Except.ok (decide_eq_false ended))

/-- A message with two extensions, the second one for the server name a.b. -/
theorem server_name_read_back_second :
    let hello : ClientHello :=
      { legacyVersion := 0x0303, random := List.replicate 32 0, sessionId := [], cipherSuites := [0x13, 0x01],
        compressionMethods := [0],
        extensions := some [⟨10, [0, 2, 0, 29], by decide, by decide⟩,
          ⟨0, vec16 (ServerName.encode ⟨0, text "a.b"⟩), by decide, by decide⟩],
        random_length := by decide, sessionId_length := by decide, cipherSuites_length := by decide,
        compressionMethods_length := by decide, extensions_length := by rintro _ ⟨⟩; decide }
    parseTLSClientHelloSNI (hello.record 0x0301 ++ [0x14]) = .ok (text "a.b") :=
  (server_name_read_back _ 0x0301 (by decide) (by decide) (by decide)).1 [_] _ [] _ [] _ rfl (by simp) ⟨rfl, rfl⟩
    (by decide)

end MeowFrp.Dpi.Engine
