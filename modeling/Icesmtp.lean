import Icesmtp.Proof.Commit
import Icesmtp.Proof.Builder
import Icesmtp.Proof.ClientLines
import Icesmtp.Proof.DataFraming
import Icesmtp.Proof.DataLimits
import Icesmtp.Proof.Delivery
import Icesmtp.Proof.Disconnect
import Icesmtp.Proof.ErrorBudget
import Icesmtp.Proof.Handover
import Icesmtp.Proof.Limits
import Icesmtp.Proof.MailPath
import Icesmtp.Proof.MemMailbox
import Icesmtp.Proof.MemStorage
import Icesmtp.Proof.Numerals
import Icesmtp.Proof.Observer
import Icesmtp.Proof.Replies
import Icesmtp.Proof.Shape
import Icesmtp.Proof.Spelling
import Icesmtp.Proof.StartTls
import Icesmtp.Proof.StoredDelivery
import Icesmtp.Proof.Termination
import Icesmtp.Proof.Tls
import Icesmtp.Proof.Wire
