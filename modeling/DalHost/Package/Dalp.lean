import DalHost.Common.Codes
import DalHost.Lib.Streams

/-!
# DALP documents

A DALP file is an XML document with up to fifty applet records: platform, applet version, firmware
version and the package of the applet as base64 text. The reader asks for records by XPath
expressions; the node sets of the two that it uses are filters of the list of records, and a position
in an expression counts within the filtered list. The texts are decoded by libb64, which skips every
character that is no digit.
-/

namespace DalHost

/-! ### Base64 -/

/-- `base64_decode_value`: the value of a digit; `none` where the table has a negative number. -/
def base64DecodeValue (c : UInt8) : Option UInt8 :=
  if 65 ≤ c ∧ c ≤ 90 then some (c - 65)
  else if 97 ≤ c ∧ c ≤ 122 then some (c - 71)
  else if 48 ≤ c ∧ c ≤ 57 then some (c + 4)
  else if c = 43 then some 62
  else if c = 47 then some 63
  else none

/-- `base64_decodestep`, with the byte under way (`plainchar`). -/
inductive Base64Step
  | stepA
  | stepB (plainchar : UInt8)
  | stepC (plainchar : UInt8)
  | stepD (plainchar : UInt8)

/-- `base64_decode_block`. -/
def base64DecodeBlock : Base64Step → Bytes → Bytes
  | _, [] => []
  | step, c :: cs =>
    match base64DecodeValue c with
    | none => base64DecodeBlock step cs
    | some fragment =>
      match step with
      | .stepA => base64DecodeBlock (.stepB ((fragment &&& 0x3f) <<< 2)) cs
      | .stepB p => (p ||| ((fragment &&& 0x30) >>> 4)) :: base64DecodeBlock (.stepC ((fragment &&& 0x0f) <<< 4)) cs
      | .stepC p => (p ||| ((fragment &&& 0x3c) >>> 2)) :: base64DecodeBlock (.stepD ((fragment &&& 0x03) <<< 6)) cs
      | .stepD p => (p ||| (fragment &&& 0x3f)) :: base64DecodeBlock .stepA cs

/-- The bytes of a text. -/
def base64Decode (text : Bytes) : Bytes := base64DecodeBlock .stepA text

def base64Digits (text : Bytes) : Nat := text.countP fun c => (base64DecodeValue c).isSome

/-- How many bytes the digits before a step have completed. -/
def Base64Step.consumed : Base64Step → Nat
  | .stepA => 0
  | .stepB _ => 1
  | .stepC _ => 2
  | .stepD _ => 3

theorem length_base64DecodeBlock (step : Base64Step) (text : Bytes) :
    (base64DecodeBlock step text).length + 3 * step.consumed / 4 = 3 * (step.consumed + base64Digits text) / 4 := by
  induction text generalizing step with
  | nil => simp [base64DecodeBlock, base64Digits]
  | cons c cs ih =>
    cases hv : base64DecodeValue c with
    | none =>
      have hdigits : base64Digits (c :: cs) = base64Digits cs := by simp [base64Digits, hv]
      simp only [base64DecodeBlock, hv, hdigits]
      exact ih step
    | some fragment =>
      have hdigits : base64Digits (c :: cs) = base64Digits cs + 1 := by simp [base64Digits, hv]
      rw [hdigits]
      cases step with
      | stepA =>
        have h := ih (.stepB ((fragment &&& 0x3f) <<< 2))
        simp only [base64DecodeBlock, hv, Base64Step.consumed] at h ⊢
        omega
      | stepB p =>
        have h := ih (.stepC ((fragment &&& 0x0f) <<< 4))
        simp only [base64DecodeBlock, hv, Base64Step.consumed, List.length_cons] at h ⊢
        omega
      | stepC p =>
        have h := ih (.stepD ((fragment &&& 0x03) <<< 6))
        simp only [base64DecodeBlock, hv, Base64Step.consumed, List.length_cons] at h ⊢
        omega
      | stepD p =>
        have h := ih .stepA
        simp only [base64DecodeBlock, hv, Base64Step.consumed, List.length_cons] at h ⊢
        omega

theorem length_base64Decode (text : Bytes) : (base64Decode text).length = 3 * base64Digits text / 4 := by
  have h := length_base64DecodeBlock .stepA text
  simpa [Base64Step.consumed, base64Decode] using h

theorem base64Digits_le (text : Bytes) : base64Digits text ≤ text.length := List.countP_le_length

/-! ### Texts and XPath -/

/-- White space of XML. -/
def isXmlBlank (c : UInt8) : Bool := c = 32 || c = 9 || c = 10 || c = 13

/-- The text after its leading blanks, with `pending` blanks before its first character. -/
def collapseBlanks : Bool → Bytes → Bytes
  | _, [] => []
  | pending, c :: cs =>
    if isXmlBlank c then collapseBlanks true cs
    else if pending then 32 :: c :: collapseBlanks false cs
    else c :: collapseBlanks false cs

/-- `normalize-space`. -/
def normalizeSpace (text : Bytes) : Bytes := collapseBlanks false (text.dropWhile isXmlBlank)

theorem isPrefixOf_collapseBlanks {start : Bytes} (hstart : ∀ c ∈ start, isXmlBlank c = false) (text : Bytes) :
    start.isPrefixOf (collapseBlanks false text) = start.isPrefixOf text := by
  induction text generalizing start with
  | nil => rfl
  | cons c cs ih =>
    cases start with
    | nil => simp
    | cons a start =>
      have ha := hstart a (by simp)
      by_cases hc : isXmlBlank c = true
      · have hac : a ≠ c := by
          rintro rfl
          rw [hc] at ha
          cases ha
        have hspace : ∀ ds, (a :: start).isPrefixOf (collapseBlanks true ds) = false := by
          intro ds
          induction ds with
          | nil => rfl
          | cons d ds ihd =>
            by_cases hd : isXmlBlank d = true
            · rw [collapseBlanks, if_pos hd]
              exact ihd
            · have ha32 : a ≠ 32 := by
                rintro rfl
                cases ha
              rw [collapseBlanks, if_neg hd, if_pos rfl, List.isPrefixOf_cons_cons, beq_false_of_ne ha32, Bool.false_and]
        rw [collapseBlanks, if_pos hc, hspace, List.isPrefixOf_cons_cons, beq_false_of_ne hac, Bool.false_and]
      · rw [collapseBlanks, if_neg hc, if_neg (by simp), List.isPrefixOf_cons_cons, List.isPrefixOf_cons_cons,
          ih fun x hx => hstart x (by simp [hx])]

/-! ### Documents -/

/-- One `applet` element. -/
structure DalpApplet where
  platform : Bytes
  appletVersion : Bytes
  fwVersion : Bytes
  appletBlob : Bytes
  deriving DecidableEq

/-- The low bits of the last digit, which padding requires to be zero. -/
def lastDigitBits (mask : UInt8) (digits : Bytes) : UInt8 := (digits.getLast?.bind base64DecodeValue).getD 63 &&& mask

/-- `xsd:base64Binary`. -/
def isBase64Binary (text : Bytes) : Bool :=
  let chars := text.filter fun c => !isXmlBlank c
  let digits := chars.takeWhile fun c => (base64DecodeValue c).isSome
  let padding := chars.drop digits.length
  chars.length % 4 = 0 &&
    (padding = [] || padding = [61] && lastDigitBits 0x3 digits = 0 || padding = [61, 61] && lastDigitBits 0xf digits = 0)

/-- A document that the schema accepts. -/
structure Dalp where
  applets : List DalpApplet
  count : 1 ≤ applets.length ∧ applets.length ≤ 50
  blobs : ∀ a ∈ applets, isBase64Binary a.appletBlob = true

/-- `//applets/applet[normalize-space(platform) = "…"]`. -/
def platformApplets (applets : List DalpApplet) (platform : Bytes) : List DalpApplet :=
  applets.filter fun a => normalizeSpace a.platform = platform

/-- `starts-with(normalize-space(fwVersion), "….")`. -/
def hasMajor (major : Int) (a : DalpApplet) : Bool := (intText major ++ [46]).isPrefixOf (normalizeSpace a.fwVersion)

/-- `//applets/applet[normalize-space(platform) = "…" and starts-with(normalize-space(fwVersion), "….")]`. -/
def majorApplets (applets : List DalpApplet) (platform : Bytes) (major : Int) : List DalpApplet :=
  applets.filter fun a => normalizeSpace a.platform = platform && hasMajor major a

/-- The node at a position, which counts from 1. -/
def nodeAt (nodes : List DalpApplet) (i : Nat) : Option DalpApplet := if i = 0 then none else nodes[i - 1]?

/-- `MAX_APPLET_BLOB_SIZE`. -/
def maxAppletBlobSize : Nat := 2097152

/-- `XmlReaderLibXml2::GetNodeTextAsBase64` on the text of a node. -/
def getNodeTextAsBase64 (text : Bytes) : Option Bytes :=
  if text.length < 1 ∨ maxAppletBlobSize ≤ text.length then none else some (base64Decode text)

end DalHost
