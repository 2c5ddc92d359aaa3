import JvmClasspath.Main
import JvmClasspath.Proofs.Grouping
import JvmClasspath.Proofs.Lookup
import JvmClasspath.Proofs.Shape
import JvmClasspath.Proofs.Unpacking
import JvmClasspath.Proofs.Lasting
import JvmClasspath.Proofs.Distinct
import JvmClasspath.Proofs.Ending
import JvmClasspath.Proofs.Opening
import JvmClasspath.Proofs.Outcomes
import JvmClasspath.Proofs.Expanding
import JvmClasspath.Proofs.Holding
import JvmClasspath.Proofs.Moments
import JvmClasspath.Proofs.Enumerating
import JvmClasspath.Proofs.Governing
import JvmClasspath.Proofs.Anchored
import JvmClasspath.Proofs.Relocating
import JvmClasspath.Proofs.Indexing
import JvmClasspath.Proofs.Sharing
import JvmClasspath.Proofs.Encoding
import JvmClasspath.Proofs.Addressing
import JvmClasspath.Proofs.Fitting
import JvmClasspath.Proofs.Designating
import JvmClasspath.Proofs.Completing
import JvmClasspath.Proofs.Admitting
import JvmClasspath.Proofs.Locating
import JvmClasspath.Proofs.Joining
import JvmClasspath.Proofs.Reporting
import JvmClasspath.Proofs.Identifying
import JvmClasspath.Proofs.Resolving
import JvmClasspath.Proofs.Overlong
import JvmClasspath.Proofs.Loading
import JvmClasspath.Proofs.Separating
import JvmClasspath.Proofs.Rebuilding
