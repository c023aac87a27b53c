import PagePrelude.Exposure
import PagePrelude.MdxSupport
import PagePrelude.DocumentKind
import PagePrelude.Session
import PagePrelude.Proofs.BatchRuns
import PagePrelude.Proofs.Compilations
import PagePrelude.Proofs.ConfigGrammar
import PagePrelude.Proofs.ConfiguredImports
import PagePrelude.Proofs.DerivedNames
import PagePrelude.Proofs.IntegrationOrder
import PagePrelude.Proofs.JoinedCode
import PagePrelude.Proofs.Kept
import PagePrelude.Proofs.LocalPaths
import PagePrelude.Proofs.Module.NameRoles
import PagePrelude.Proofs.NormalPaths
import PagePrelude.Proofs.PageScript
import PagePrelude.Proofs.Quoting
import PagePrelude.Proofs.ReadableCode
import PagePrelude.Proofs.Reread
