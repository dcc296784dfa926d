import Mathlib.Data.List.Forall2

namespace Rfc4180
set_option autoImplicit true

abbrev Bytes := List UInt8

abbrev comma : UInt8 := 44
abbrev dquote : UInt8 := 34
abbrev lf : UInt8 := 10
abbrev cr : UInt8 := 13

/-- Where a reader stands in a field; `quoteSeen` is behind a quote inside a quoted field, and
`crSeen` behind a CR that an LF has to follow. -/
inductive Mode where
  | fieldStart
  | plain
  | quoted
  | quoteSeen
  | crSeen
deriving DecidableEq

structure Reader where
  records : List (List Bytes)
  record : List Bytes
  field : Bytes
  mode : Mode

namespace Reader

def init : Reader := ⟨[], [], [], .fieldStart⟩

def push (s : Reader) (b : UInt8) (mode : Mode) : Reader :=
  { s with field := s.field ++ [b], mode := mode }

def endField (s : Reader) : Reader :=
  { s with record := s.record ++ [s.field], field := [], mode := .fieldStart }

def endRecord (s : Reader) : Reader :=
  { records := s.records ++ [s.record ++ [s.field]], record := [], field := [], mode := .fieldStart }

/-- What may follow a field: a comma, or a line break, which is LF or CR LF. -/
def delimit (s : Reader) (b : UInt8) : Option Reader :=
  if b = comma then some s.endField
  else if b = lf then some s.endRecord
  else if b = cr then some { s with mode := .crSeen }
  else none

def step (s : Reader) (b : UInt8) : Option Reader :=
  match s.mode with
  | .fieldStart =>
    if b = dquote then some { s with mode := .quoted }
    else (s.delimit b).or (some (s.push b .plain))
  | .plain => if b = dquote then none else (s.delimit b).or (some (s.push b .plain))
  | .quoted => if b = dquote then some { s with mode := .quoteSeen } else some (s.push b .quoted)
  | .quoteSeen => if b = dquote then some (s.push b .quoted) else s.delimit b
  | .crSeen => if b = lf then some s.endRecord else none

/-- The last record need not end in a line break. -/
def finish (s : Reader) : Option (List (List Bytes)) :=
  match s.mode with
  | .fieldStart => if s.record = [] then some s.records else some s.endRecord.records
  | .plain => some s.endRecord.records
  | .quoted => none
  | .quoteSeen => some s.endRecord.records
  | .crSeen => none

end Reader

def read (text : Bytes) : Option (List (List Bytes)) :=
  (text.foldlM Reader.step .init).bind Reader.finish

def Plain (b : UInt8) : Prop := b ≠ comma ∧ b ≠ dquote ∧ b ≠ lf ∧ b ≠ cr

instance (b : UInt8) : Decidable (Plain b) :=
  inferInstanceAs (Decidable (b ≠ comma ∧ b ≠ dquote ∧ b ≠ lf ∧ b ≠ cr))

def double (b : UInt8) : Bytes := if b = dquote then [dquote, dquote] else [b]

inductive Encodes : Bytes → Bytes → Prop
  | plain (h : ∀ b ∈ field, Plain b) : Encodes field field
  | quoted : Encodes (dquote :: field.flatMap double ++ [dquote]) field

def EncodesRecord (text : Bytes) (record : List Bytes) : Prop :=
  ∃ texts, texts ≠ [] ∧ List.Forall₂ Encodes texts record ∧
    text = [comma].intercalate texts ++ [lf]

namespace Reader

variable {s : Reader} {b : UInt8} {text field : Bytes} {texts record : List Bytes}
  {records : List (List Bytes)}

theorem step_plain (hmode : s.mode = .fieldStart ∨ s.mode = .plain) (hb : Plain b) :
    s.step b = some (s.push b .plain) := by
  obtain ⟨hcomma, hquote, hlf, hcr⟩ := hb
  have hdelimit : s.delimit b = none := by simp [delimit, hcomma, hlf, hcr]
  rcases hmode with hmode | hmode <;> simp [step, hmode, hquote, hdelimit]

theorem feed_plain (hmode : s.mode = .fieldStart ∨ s.mode = .plain) (hf : ∀ b ∈ field, Plain b) :
    ∃ mode, (mode = .fieldStart ∨ mode = .plain) ∧
      field.foldlM step s = some { s with field := s.field ++ field, mode := mode } := by
  induction field generalizing s with
  | nil => exact ⟨s.mode, hmode, by simp⟩
  | cons b field ih =>
    have hb := hf b List.mem_cons_self
    have hrest := ih (s := s.push b .plain) (Or.inr rfl) fun c hc => hf c (List.mem_cons_of_mem b hc)
    obtain ⟨mode, hm, hfeed⟩ := hrest
    refine ⟨mode, hm, ?_⟩
    rw [List.foldlM_cons, step_plain hmode hb]
    simpa [push] using hfeed

theorem feed_double (hmode : s.mode = .quoted) (b : UInt8) :
    (double b).foldlM step s = some (s.push b .quoted) := by
  by_cases hb : b = dquote
  · simp [double, hb, step, hmode, push]
  · simp [double, hb, step, hmode, push]

theorem feed_doubled (hmode : s.mode = .quoted) (field : Bytes) :
    (field.flatMap double).foldlM step s = some { s with field := s.field ++ field } := by
  induction field generalizing s with
  | nil => simp
  | cons b field ih =>
    have hrest := ih (s := s.push b .quoted) rfl
    rw [List.flatMap_cons, List.foldlM_append, feed_double hmode b]
    simpa [push, hmode] using hrest

/-- Behind the text of a field a reader holds the field, and takes a delimiter next. -/
theorem feed_encoded (hmode : s.mode = .fieldStart) (hfield : s.field = [])
    (henc : Encodes text field) :
    ∃ mode, (mode = .fieldStart ∨ mode = .plain ∨ mode = .quoteSeen) ∧
      text.foldlM step s = some { s with field := field, mode := mode } := by
  cases henc with
  | plain hf =>
    obtain ⟨mode, hm, hfeed⟩ := feed_plain (Or.inl hmode) hf
    rw [hfield, List.nil_append] at hfeed
    exact ⟨mode, hm.imp_right Or.inl, hfeed⟩
  | quoted =>
    refine ⟨.quoteSeen, Or.inr (Or.inr rfl), ?_⟩
    have hopen : s.step dquote = some { s with mode := .quoted } := by simp [step, hmode]
    have hbody := feed_doubled (s := { s with mode := .quoted }) rfl field
    rw [List.cons_append, List.foldlM_cons, hopen, Option.bind_eq_bind, Option.bind_some,
      List.foldlM_append, hbody]
    simp [step, hfield]

theorem comma_ne_dquote : comma ≠ dquote := by decide

theorem lf_ne_dquote : lf ≠ dquote := by decide

theorem lf_ne_comma : lf ≠ comma := by decide

theorem step_comma (hmode : s.mode = .fieldStart ∨ s.mode = .plain ∨ s.mode = .quoteSeen) :
    s.step comma = some s.endField := by
  rcases hmode with hmode | hmode | hmode <;> simp [step, hmode, delimit, comma_ne_dquote]

theorem step_lf (hmode : s.mode = .fieldStart ∨ s.mode = .plain ∨ s.mode = .quoteSeen) :
    s.step lf = some s.endRecord := by
  rcases hmode with hmode | hmode | hmode <;>
    simp [step, hmode, delimit, lf_ne_dquote, lf_ne_comma]

theorem feed_fields (hmode : s.mode = .fieldStart) (hfield : s.field = []) (hne : texts ≠ [])
    (henc : List.Forall₂ Encodes texts record) :
    ([comma].intercalate texts ++ [lf]).foldlM step s =
      some { records := s.records ++ [s.record ++ record], record := [], field := [],
             mode := .fieldStart } := by
  induction henc generalizing s with
  | nil => exact absurd rfl hne
  | @cons text field texts record htext hrest ih =>
    obtain ⟨mode, hm, hfeed⟩ := feed_encoded hmode hfield htext
    cases hrest with
    | nil =>
      rw [List.intercalate_singleton, List.foldlM_append, hfeed, Option.bind_eq_bind,
        Option.bind_some, List.foldlM_cons, step_lf hm]
      rfl
    | @cons text' field' texts record htext' hrest =>
      rw [List.intercalate_cons_cons, List.append_assoc, List.append_assoc, List.foldlM_append,
        hfeed, Option.bind_eq_bind, Option.bind_some, List.singleton_append, List.foldlM_cons,
        step_comma hm, Option.bind_eq_bind, Option.bind_some, ih rfl rfl (List.cons_ne_nil _ _)]
      simp [endField]

theorem feed_record (hmode : s.mode = .fieldStart) (hfield : s.field = []) (hrecord : s.record = [])
    (henc : EncodesRecord text record) :
    text.foldlM step s = some { s with records := s.records ++ [record] } := by
  obtain ⟨texts, hne, hfields, rfl⟩ := henc
  rw [feed_fields hmode hfield hne hfields, hrecord, List.nil_append]
  obtain ⟨records, record', field, mode⟩ := s
  subst hmode
  subst hfield
  subst hrecord
  rfl

theorem feed_records (hmode : s.mode = .fieldStart) (hfield : s.field = []) (hrecord : s.record = [])
    (henc : List.Forall₂ EncodesRecord texts records) :
    texts.flatten.foldlM step s = some { s with records := s.records ++ records } := by
  induction henc generalizing s with
  | nil => simp
  | @cons text record texts records htext _ ih =>
    rw [List.flatten_cons, List.foldlM_append, feed_record hmode hfield hrecord htext,
      Option.bind_eq_bind, Option.bind_some,
      ih (s := { s with records := s.records ++ [record] }) hmode hfield hrecord]
    simp

end Reader

/-- A reader gets back the records of a text that is the encodings of records. -/
theorem read_encoded (henc : List.Forall₂ EncodesRecord texts records) :
    read texts.flatten = some records := by
  rw [read, Reader.feed_records rfl rfl rfl henc]
  rfl

/-- What is left of the text of a record that was cut outside quotes. -/
inductive CutOff : List Bytes → Bytes → Prop
  | here (hpart : part <+: text) (hplain : ∀ b ∈ part, Plain b) : CutOff (text :: texts) part
  | later (h : CutOff texts cut) : CutOff (text :: texts) (text ++ comma :: cut)

namespace Reader

variable {s : Reader} {first text : Bytes} {texts record : List Bytes}

def Unquoted (s : Reader) : Prop := s.mode = .fieldStart ∨ s.mode = .plain

theorem feed_plain_comma (h : s.Unquoted) (hfirst : ∀ b ∈ first, Plain b) (text : Bytes) :
    (first ++ comma :: text).foldlM step s =
      text.foldlM step { s with
        record := s.record ++ [s.field ++ first], field := [], mode := .fieldStart } := by
  obtain ⟨mode, hm, hfeed⟩ := feed_plain h hfirst
  have hcomma := step_comma (s := { s with field := s.field ++ first, mode := mode })
    (hm.imp_right Or.inl)
  rw [List.foldlM_append, hfeed, Option.bind_eq_bind, Option.bind_some, List.foldlM_cons, hcomma]
  rfl

theorem feed_cutOff (hmode : s.mode = .fieldStart) (hfield : s.field = [])
    (henc : List.Forall₂ Encodes texts record) (h : CutOff texts text) :
    ∃ s', text.foldlM step s = some s' ∧ s'.Unquoted ∧ s'.records = s.records := by
  induction h generalizing s record with
  | here hpart hplain =>
    obtain ⟨mode, hm, hfeed⟩ := feed_plain (Or.inl hmode) hplain
    exact ⟨_, hfeed, hm, rfl⟩
  | @later texts cut text h ih =>
    cases henc with
    | cons htext hrest =>
      obtain ⟨mode, hm, hfeed⟩ := feed_encoded hmode hfield htext
      obtain ⟨s', hs', hunquoted, hrecords⟩ := ih (s := { s with field := _, mode := mode }.endField)
        rfl rfl hrest
      refine ⟨s', ?_, hunquoted, hrecords⟩
      rw [List.foldlM_append, hfeed, Option.bind_eq_bind, Option.bind_some, List.foldlM_cons,
        step_comma hm, Option.bind_eq_bind, Option.bind_some, hs']

theorem feed_cutOff_unquoted (hs : s.Unquoted) (hfirst : ∀ b ∈ first, Plain b)
    (henc : List.Forall₂ Encodes texts record) (h : CutOff (first :: texts) text) :
    ∃ s', text.foldlM step s = some s' ∧ s'.Unquoted ∧ s'.records = s.records := by
  cases h with
  | here hpart hplain =>
    obtain ⟨mode, hm, hfeed⟩ := feed_plain hs hplain
    exact ⟨_, hfeed, hm, rfl⟩
  | later h =>
    rw [feed_plain_comma hs hfirst]
    exact feed_cutOff rfl rfl henc h

/-- Where no quote is open a record that starts with a plain field is appended to the one that is
there already. -/
theorem feed_record_unquoted (hs : s.Unquoted) (hfirst : ∀ b ∈ first, Plain b) (hne : texts ≠ [])
    (henc : List.Forall₂ Encodes texts record) :
    ([comma].intercalate (first :: texts) ++ [lf]).foldlM step s =
      some { records := s.records ++ [s.record ++ [s.field ++ first] ++ record], record := [],
             field := [], mode := .fieldStart } := by
  obtain ⟨text, texts, rfl⟩ := List.exists_cons_of_ne_nil hne
  rw [List.intercalate_cons_cons, List.append_assoc, List.append_assoc, List.singleton_append,
    feed_plain_comma hs hfirst, feed_fields rfl rfl hne henc]

theorem finish_unquoted (hs : s.Unquoted) : ∃ last, s.finish = some (s.records ++ last) := by
  rcases hs with hmode | hmode
  · by_cases hrecord : s.record = []
    · exact ⟨[], by simp [finish, hmode, hrecord]⟩
    · exact ⟨[s.record ++ [s.field]], by simp [finish, hmode, hrecord, endRecord]⟩
  · exact ⟨[s.record ++ [s.field]], by simp [finish, hmode, endRecord]⟩

end Reader

end Rfc4180
