import TunTap.Configure
import TunTap.Device
import TunTap.Errno.Basic
import TunTap.Errno.Kind
import TunTap.Errno.Table
import TunTap.Error
import TunTap.Flags.Basic
import TunTap.Flags.Update
import TunTap.Kernel
import TunTap.Log
import TunTap.Name
import TunTap.Request.Basic
import TunTap.Request.Image
import TunTap.Session
import TunTap.Text.CodeRange
import TunTap.Text.DefaultIgnorable
import TunTap.Text.GraphemeExtend
import TunTap.Text.Labelled
import TunTap.Text.Numeral
import TunTap.Text.Quoted
import TunTap.Text.Unprintable
import TunTap.Text.Utf8
import TunTap.Proofs.Name.Basic
import TunTap.Proofs.Configure
import TunTap.Proofs.Name.Obtained
import TunTap.Proofs.Open
import TunTap.Proofs.Request.Layout
import TunTap.Proofs.Session.History
import TunTap.Proofs.Session.Requests
import TunTap.Proofs.Session.Replies
import TunTap.Proofs.Session.Rejected
import TunTap.Proofs.Errno
import TunTap.Proofs.Error
import TunTap.Proofs.Session.Failures
import TunTap.Proofs.Session.Noninterference
import TunTap.Proofs.Session.Chain
import TunTap.Proofs.Session.EntryPoints
import TunTap.Proofs.Text.Numeral
import TunTap.Proofs.Text.Quoted
import TunTap.Proofs.Log
import TunTap.Proofs.Name.Given
import TunTap.Proofs.Name.Field
import TunTap.Proofs.Request.Edits
import TunTap.Proofs.Session.Interleaving
import TunTap.Proofs.Session.Log
import TunTap.Proofs.SystemError
import TunTap.Proofs.Flags.Narrow
import TunTap.Proofs.Flags.Unknown
import TunTap.Proofs.Session.Openings
