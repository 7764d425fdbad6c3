import KubeOne.State.Upgrade
import KubeOne.Tasks.Updates
import KubeOne.Tasks.Preflight
import KubeOne.Tasks.Certs
import KubeOne.Cmd.Backup
import KubeOne.Etcd.Exact
import KubeOne.CloudProvider.RetrySafe
import KubeOne.CloudProvider.Aws.Resumable
import KubeOne.CloudProvider.DigitalOcean.Reconcile
import KubeOne.CloudProvider.Gce.Members
import KubeOne.Localhelm.Uninstall
import KubeOne.Encryption.Probes
import KubeOne.Encryption.Disable
import KubeOne.Encryption.Enable
import KubeOne.Addons.Honoured
import KubeOne.Addons.Inventory
import KubeOne.Addons.Removal
import KubeOne.NativeClient.Order
import KubeOne.Yamled.Update
import KubeOne.CloudProvider.DigitalOcean.Tags
import KubeOne.Apis.ServiceSubnet
import KubeOne.Credentials.Kubevirt
import KubeOne.Credentials.Retried
import KubeOne.Terraform.Config
import KubeOne.Config.Loaded
import KubeOne.ContainerRuntime.Hosts
import KubeOne.ClientUtil.Volumes
import KubeOne.Initcmd.Faithful
import KubeOne.Cmd.Unhealthy
import KubeOne.Kubeadm.FeatureGates
import KubeOne.ClientUtil.CreateOrUpdate
import KubeOne.Certificate.Renew
import KubeOne.Images.Copy
import KubeOne.Tasks.Nodes
import KubeOne.Terraform.Apply
import KubeOne.Terraform.Kubelet
import KubeOne.Tasks.ClusterName
import KubeOne.Provisioner.Addresses
import KubeOne.Maputils.OrderEntryMap
import KubeOne.Addons.Delimiters
import KubeOne.Addons.CredentialsHash
import KubeOne.Semverutil.Range
