import ServiceBroker.Table
import ServiceBroker.Work.Request

/-!
A generator of random secrets that remembers what it has issued. A key that holds a secret gets the
same one again until it is deleted.

Randomness comes from outside as an endless supply of numbers, of which each character takes the
next one; the generator counts how many it has taken.
-/

namespace ServiceBroker

/-- Numbers that the generator draws from, by position. -/
abbrev Entropy := Nat → Nat

namespace Charset

def upperLetters : List Char := "ABCDEFGHIJKLMNOPQRSTUVWXYZ".toList

def lowerLetters : List Char := "abcdefghijklmnopqrstuvwxyz".toList

def digits : List Char := "0123456789".toList

def specials : List Char := "~!@#$%^&*_-+=?".toList

/-- The characters of the enabled classes. -/
def alphabet (charset : Charset) : List Char :=
  (if charset.upper then upperLetters else []) ++ (if charset.lower then lowerLetters else []) ++
    (if charset.numeric then digits else []) ++ (if charset.special then specials else [])

end Charset

inductive GeneratorError where
  | emptyAlphabet
  | zeroLength
deriving DecidableEq, Repr

def GeneratorError.message : GeneratorError → String
  | .emptyAlphabet => "credential character set excludes every character class"
  | .zeroLength => "credential length must be positive"

/-- The secrets that are held, and how many numbers have been drawn. -/
structure Generator where
  users : Table CredentialKey UserCredentials := .empty
  strings : Table CredentialKey String := .empty
  drawn : Nat := 0
deriving Inhabited

namespace Generator

/-- A random text over the alphabet of a character set, from the numbers at a position and after. -/
def randomText (entropy : Entropy) (position : Nat) (charset : Charset) :
    Except GeneratorError String :=
  match charset.alphabet with
  | [] => .error .emptyAlphabet
  | first :: rest =>
    if charset.length = 0 then .error .zeroLength
    else .ok <| String.ofList <| (List.range charset.length).map fun i =>
      (first :: rest).getD (entropy (position + i) % (first :: rest).length) first

/-- The user held for a key, or a new one. A user name never has special characters. -/
def generateUser (entropy : Entropy) (generator : Generator) (key : CredentialKey)
    (charset : Charset) : Except GeneratorError UserCredentials × Generator :=
  match generator.users.get? key with
  | some user => (.ok user, generator)
  | none =>
    match randomText entropy generator.drawn { charset with special := false },
        randomText entropy (generator.drawn + charset.length) charset with
    | .error e, _ => (.error e, generator)
    | _, .error e => (.error e, generator)
    | .ok username, .ok password =>
      let user : UserCredentials := ⟨username, password⟩
      (.ok user, { generator with
        users := generator.users.put key user
        drawn := generator.drawn + 2 * charset.length })

/-- The text held for a key, or a new one. -/
def generateString (entropy : Entropy) (generator : Generator) (key : CredentialKey)
    (charset : Charset) : Except GeneratorError String × Generator :=
  match generator.strings.get? key with
  | some text => (.ok text, generator)
  | none =>
    match randomText entropy generator.drawn charset with
    | .error e => (.error e, generator)
    | .ok text =>
      (.ok text, { generator with
        strings := generator.strings.put key text
        drawn := generator.drawn + charset.length })

def deleteUser (generator : Generator) (key : CredentialKey) : Generator :=
  { generator with users := generator.users.erase key }

def deleteString (generator : Generator) (key : CredentialKey) : Generator :=
  { generator with strings := generator.strings.erase key }

/-- How many users and texts are held. -/
def issued (generator : Generator) : Nat := generator.users.size + generator.strings.size

end Generator

end ServiceBroker
