import EnvAudit.Audit.Auditor
import EnvAudit.Catalogue
import EnvAudit.Proofs.EnvFile.Joining
import EnvAudit.Proofs.Text.Utf8

namespace EnvAudit
open Text

namespace Workspace
variable {w : Workspace} {path : String} {bytes : List UInt8}

theorem readRaw_of_encode {text : String} (stored : w.readBytes path = .ok bytes)
    (encodes : bytes = Utf8.encode text.toList) : w.readRaw path = .ok text := by
  rw [readRaw, stored]
  simp only [Utf8.decode_eq_ok_iff.mpr encodes, String.ofList_toList]

theorem readRaw_of_ne (stored : w.readBytes path = .ok bytes)
    (encodesNone : ∀ text : String, bytes ≠ Utf8.encode text.toList) :
    ∃ fault, Utf8.decode bytes = .error fault ∧ w.readRaw path = .error (.encoding fault) := by
  rw [readRaw, stored]
  cases decoded : Utf8.decode bytes with
  | ok s =>
      have encodes := Utf8.decode_eq_ok_iff.mp decoded
      exact absurd (by rwa [String.toList_ofList]) (encodesNone (String.ofList s))
  | error fault => exact ⟨fault, rfl, by simp only [decoded]⟩

end Workspace

namespace EnvFile
variable {w : Workspace} {path : String} {bytes : List UInt8}

theorem load_of_readRaw {text : String} (readable : w.readRaw path = .ok text) : load w path = .ok (parse text) := by
  rw [load, readable]

theorem load_of_encoding {fault : Utf8.Fault} (refused : w.readRaw path = .error (.encoding fault)) :
    load w path = .error (.unreadable path fault.message) := by
  rw [load, refused]
  rfl

end EnvFile

theorem Auditor.auditFile_of_load [Host] {auditor : Auditor} {w : Workspace} {file : EnvFile}
    (loaded : EnvFile.load w auditor.config.envFile = .ok file) : auditor.auditFile w = auditor.audit w file := by
  rw [auditFile, loaded]
  rfl

/-- A file whose bytes encode a text is read as that text, line by line, and audited as that text is; any other is
refused. -/
theorem EnvFile.load_readBytes [Host] {w : Workspace} {path : String} {bytes : List UInt8}
    (stored : w.readBytes path = .ok bytes) :
    (∀ text : String, bytes = Utf8.encode text.toList →
      load w path = .ok (parse text) ∧
      (∃ lines, HasLines text.toList lines ∧ load w path = .ok (ofLines ((lines.map Line.read).zipIdx 1))) ∧
      ∀ auditor : Auditor, auditor.config.envFile = path → auditor.auditFile w = auditor.auditText w text) ∧
    ((∀ text : String, bytes ≠ Utf8.encode text.toList) →
      ∃ fault, Utf8.decode bytes = .error fault ∧ load w path = .error (.unreadable path fault.message)) := by
  constructor
  · intro text encodes
    have loaded := load_of_readRaw (Workspace.readRaw_of_encode stored encodes)
    have has := hasLines_splitLines text.toList
    refine ⟨loaded, ⟨_, has, loaded.trans (congrArg _ (parse_of_hasLines has))⟩, ?_⟩
    rintro auditor rfl
    exact Auditor.auditFile_of_load loaded
  · intro encodesNone
    obtain ⟨fault, decoded, refused⟩ := Workspace.readRaw_of_ne stored encodesNone
    exact ⟨fault, decoded, load_of_encoding refused⟩

attribute [local instance] Host.shipped in
theorem EnvFile.load_readBytes_marked :
    let text := "\ufeffA=1\r\nB=2\rC=3\n"
    let cut : List UInt8 := [0x41, 0x3d, 0xe9]
    let w : Workspace :=
      { root := {}, entries := [(["a.env"], .file (Utf8.encode text.toList)), (["b.env"], .file cut)] }
    w.readBytes "a.env" = .ok (Utf8.encode text.toList) ∧ load w "a.env" = .ok (parse text) ∧
      (parse text).assignments = [{ key := "B", value := "2\rC=3", line := 2 }] ∧
      w.readBytes "b.env" = .ok cut ∧ (∀ text : String, cut ≠ Utf8.encode text.toList) ∧
      ∃ fault, Utf8.decode cut = .error fault ∧ load w "b.env" = .error (.unreadable "b.env" fault.message) := by
  intro text cut w
  have stored : w.readBytes "a.env" = .ok (Utf8.encode text.toList) := by decide +kernel
  have storedCut : w.readBytes "b.env" = .ok cut := by decide +kernel
  have encodesNone : ∀ text : String, cut ≠ Utf8.encode text.toList := by
    intro text encodes
    have refused : Utf8.decode cut = .error (.truncated 2 1 0xe9) := by decide
    rw [Utf8.decode_eq_ok_iff.mpr encodes] at refused
    cases refused
  exact ⟨stored, ((load_readBytes stored).1 text rfl).1, by decide +kernel, storedCut, encodesNone,
    (load_readBytes storedCut).2 encodesNone⟩

end EnvAudit
