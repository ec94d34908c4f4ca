import Mathlib.Data.List.Basic
import Mathlib.Tactic.Common

/-! Authenticated encryption with associated data, as far as whoever calls it relies on it. -/

/-- A ciphertext with its tag; `decipher` fails with the message of the library underneath. -/
structure Aead where
  encipher (key iv associated plaintext : List UInt8) : List UInt8 × List UInt8
  decipher (key iv associated : List UInt8) (sealedText : List UInt8 × List UInt8) : Except String (List UInt8)
  decipher_encipher (key iv associated plaintext : List UInt8) :
    decipher key iv associated (encipher key iv associated plaintext) = .ok plaintext
  decipher_other (key iv plaintext : List UInt8) {associated other : List UInt8} : other ≠ associated →
    ∃ message, decipher key iv other (encipher key iv associated plaintext) = .error message
  length_ciphertext (key iv associated plaintext : List UInt8) :
    (encipher key iv associated plaintext).1.length = plaintext.length
  tag_ne_nil (key iv associated plaintext : List UInt8) : (encipher key iv associated plaintext).2 ≠ []

namespace Aead

variable (cipher : Aead) (key iv associated : List UInt8)

theorem ciphertext_eq_nil_iff {plaintext : List UInt8} :
    (cipher.encipher key iv associated plaintext).1 = [] ↔ plaintext = [] := by
  rw [← List.length_eq_zero_iff, cipher.length_ciphertext, List.length_eq_zero_iff]

/-- A cipher that keeps the text open and has the associated data as its tag. -/
def transparent : Aead where
  encipher _ _ associated plaintext := (plaintext, 0 :: associated)
  decipher _ _ associated sealedText :=
    if sealedText.2 = 0 :: associated then .ok sealedText.1
    else .error "Unsupported state or unable to authenticate data"
  decipher_encipher _ _ _ _ := if_pos rfl
  decipher_other _ _ _ _ _ differs := ⟨_, if_neg fun same => differs (List.tail_eq_of_cons_eq same).symm⟩
  length_ciphertext _ _ _ _ := rfl
  tag_ne_nil _ _ _ _ := List.cons_ne_nil _ _

end Aead
