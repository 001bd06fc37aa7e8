import ProtoTypings.Main
import ProtoTypings.Proofs.Lookup
import ProtoTypings.Proofs.CaseImage
import ProtoTypings.Proofs.Outline
import ProtoTypings.Proofs.PlainLines
import ProtoTypings.Proofs.FileOutline
import ProtoTypings.Proofs.FileTexts
import ProtoTypings.Proofs.Reference
import ProtoTypings.Proofs.Walk
import ProtoTypings.Proofs.Response
import ProtoTypings.Proofs.Closure
import ProtoTypings.Proofs.OneofNumbering
import ProtoTypings.Proofs.ClassText
import ProtoTypings.Proofs.Presence
import ProtoTypings.Proofs.TableHistory
import ProtoTypings.Proofs.TableAgreement
import ProtoTypings.Proofs.FileOrder
import ProtoTypings.Proofs.DescriptorRecord
import ProtoTypings.Proofs.Framing
import ProtoTypings.Proofs.Relocation
import ProtoTypings.Proofs.Imports
import ProtoTypings.Proofs.Scoping
import ProtoTypings.Proofs.Capture
import ProtoTypings.Proofs.Acceptance
import ProtoTypings.Proofs.Unresolved
import ProtoTypings.Proofs.ImportTargets
import ProtoTypings.Proofs.ObjectView
import ProtoTypings.Proofs.Specifier
import ProtoTypings.Proofs.Parameter
import ProtoTypings.Proofs.Indentation
import ProtoTypings.Proofs.EnumReading
import ProtoTypings.Proofs.EntryNames
import ProtoTypings.Proofs.MemberNames
import ProtoTypings.Proofs.NamespaceNames
import ProtoTypings.Proofs.Aliases
import ProtoTypings.Proofs.FieldNames
import ProtoTypings.Proofs.SettingsReach
