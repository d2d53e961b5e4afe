import ServiceBroker.Json.Fault

/-!
The inside of a JSON string, up to its closing quote. A kept string resolves its escapes; a skipped
one only has to be well formed character by character, so surrogates need no partner there.
-/

namespace ServiceBroker.Json

def hexDigit? (c : Char) : Option Nat :=
  if c.isDigit then some (c.toNat - '0'.toNat)
  else if 'a' ≤ c ∧ c ≤ 'f' then some (c.toNat - 'a'.toNat + 10)
  else if 'A' ≤ c ∧ c ≤ 'F' then some (c.toNat - 'A'.toNat + 10)
  else none

/-- The 16-bit unit given by four hexadecimal digits. A text with less than four bytes left ends
here. -/
def codeUnit : List Char → Except Fault (Nat × List Char)
  | a :: b :: c :: d :: rest =>
    match hexDigit? a, hexDigit? b, hexDigit? c, hexDigit? d with
    | some a, some b, some c, some d => .ok (((a * 16 + b) * 16 + c) * 16 + d, rest)
    | _, _, _, _ => .error (.syntactic .invalidEscape)
  | short =>
    if (String.ofList short).utf8ByteSize < 4 then .error (.cut .text)
    else .error (.syntactic .invalidEscape)

/-- The character of the escapes with one letter. -/
def letterEscape? : Char → Option Char
  | '"' => some '"'
  | '\\' => some '\\'
  | '/' => some '/'
  | 'b' => some '\x08'
  | 'f' => some '\x0c'
  | 'n' => some '\n'
  | 'r' => some '\r'
  | 't' => some '\t'
  | _ => none

/-- The second half of a surrogate pair, as an escape of its own. -/
def lowSurrogate (high : Nat) : List Char → Except Fault (Char × List Char)
  | [] => .error (.cut .text)
  | ['\\'] => .error (.cut .text)
  | '\\' :: 'u' :: rest => do
    let (low, rest) ← codeUnit rest
    if 0xDC00 ≤ low ∧ low ≤ 0xDFFF then
      .ok (Char.ofNat (0x10000 + (high - 0xD800) * 0x400 + (low - 0xDC00)), rest)
    else .error (.syntactic .unpairedSurrogate)
  | _ => .error (.syntactic .brokenSurrogatePair)

/-- The character of an escape, read after its backslash. -/
def readEscape : List Char → Except Fault (Char × List Char)
  | [] => .error (.cut .text)
  | 'u' :: rest => do
    let (n, rest) ← codeUnit rest
    if 0xDC00 ≤ n ∧ n ≤ 0xDFFF then .error (.syntactic .unpairedSurrogate)
    else if 0xD800 ≤ n ∧ n ≤ 0xDBFF then lowSurrogate n rest
    else .ok (Char.ofNat n, rest)
  | c :: rest =>
    match letterEscape? c with
    | some e => .ok (e, rest)
    | none => .error (.syntactic .invalidEscape)

/-- Passes over an escape, read after its backslash. -/
def skipEscape : List Char → Except Fault (List Char)
  | [] => .error (.cut .text)
  | 'u' :: rest => do
    let (_, rest) ← codeUnit rest
    .ok rest
  | c :: rest => if (letterEscape? c).isSome then .ok rest else .error (.syntactic .invalidEscape)

theorem codeUnit_shorter {cs rest : List Char} {n : Nat} (h : codeUnit cs = .ok (n, rest)) :
    rest.length < cs.length := by
  unfold codeUnit at h
  split at h
  · split at h
    · simp only [Except.ok.injEq, Prod.mk.injEq] at h
      simp only [← h.2, List.length_cons]
      omega
    · simp at h
  · split at h <;> simp at h

theorem lowSurrogate_shorter {high : Nat} {cs rest : List Char} {c : Char}
    (h : lowSurrogate high cs = .ok (c, rest)) : rest.length < cs.length := by
  unfold lowSurrogate at h
  split at h
  · simp at h
  · simp at h
  · rename_i tail
    cases hu : codeUnit tail with
    | error f => simp [hu, bind, Except.bind] at h
    | ok p =>
      have := codeUnit_shorter hu
      simp only [hu, bind, Except.bind] at h
      split at h
      · simp only [Except.ok.injEq, Prod.mk.injEq] at h
        simp only [← h.2, List.length_cons]
        omega
      · simp at h
  · simp at h

theorem readEscape_shorter {cs rest : List Char} {c : Char} (h : readEscape cs = .ok (c, rest)) :
    rest.length < cs.length := by
  unfold readEscape at h
  split at h
  · simp at h
  · rename_i tail
    cases hu : codeUnit tail with
    | error f => simp [hu, bind, Except.bind] at h
    | ok p =>
      have := codeUnit_shorter hu
      simp only [hu, bind, Except.bind] at h
      split at h
      · simp at h
      · split at h
        · have := lowSurrogate_shorter h
          simp only [List.length_cons]
          omega
        · simp only [Except.ok.injEq, Prod.mk.injEq] at h
          simp only [← h.2, List.length_cons]
          omega
  · split at h
    · simp only [Except.ok.injEq, Prod.mk.injEq] at h
      simp [← h.2]
    · simp at h

theorem skipEscape_shorter {cs rest : List Char} (h : skipEscape cs = .ok rest) :
    rest.length < cs.length := by
  unfold skipEscape at h
  split at h
  · simp at h
  · rename_i tail
    cases hu : codeUnit tail with
    | error f => simp [hu, bind, Except.bind] at h
    | ok p =>
      have := codeUnit_shorter hu
      simp only [hu, bind, Except.bind, Except.ok.injEq] at h
      simp only [← h, List.length_cons]
      omega
  · split at h
    · simp only [Except.ok.injEq] at h
      simp [← h]
    · simp at h

/-- The characters of a string and what follows its closing quote. -/
def readText (cs : List Char) : Except Fault (List Char × List Char) :=
  match cs with
  | [] => .error (.cut .text)
  | '"' :: rest => .ok ([], rest)
  | '\\' :: rest =>
    match h : readEscape rest with
    | .error f => .error f
    | .ok (c, tail) =>
      have : tail.length < rest.length := readEscape_shorter h
      match readText tail with
      | .error f => .error f
      | .ok (s, after) => .ok (c :: s, after)
  | c :: rest =>
    if c.toNat < 0x20 then .error (.syntactic .controlCharacter)
    else
      match readText rest with
      | .error f => .error f
      | .ok (s, after) => .ok (c :: s, after)
termination_by cs.length

/-- What follows the closing quote of a skipped string. -/
def skipText (cs : List Char) : Except Fault (List Char) :=
  match cs with
  | [] => .error (.cut .text)
  | '"' :: rest => .ok rest
  | '\\' :: rest =>
    match h : skipEscape rest with
    | .error f => .error f
    | .ok tail =>
      have : tail.length < rest.length := skipEscape_shorter h
      skipText tail
  | c :: rest => if c.toNat < 0x20 then .error (.syntactic .controlCharacter) else skipText rest
termination_by cs.length

end ServiceBroker.Json
