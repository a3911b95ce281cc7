/-!
# The chart

The chart that every release of a migration is installed from. It can run an sshd that
serves claims, an rsync job, or both; everything is off until values turn it on.

A run unpacks the files once, when all checks are passed (`prepare`), and names the directory in
every installation. What helm makes of the templates is helm's business; a run sees the pods, jobs
and services that come of it.
-/

namespace VolumeMigration.Helm.Chart

/-- The text of a file with these lines. -/
def ofLines (lines : List String) : String := String.join (lines.map (· ++ "\n"))

/-- What the chart is called. -/
def metadata : String := ofLines [
  "apiVersion: v2",
  "name: pv-migrate",
  "description: Auxiliary workloads for migrating persistent volume claims with rsync over ssh",
  "type: application",
  "version: 0.1.0",
  "appVersion: \"0.1.0\""]

/-- The values of the chart where nothing else is said. -/
def defaults : String := ofLines [
  "# Values below are filled in per migration attempt. Anything can be overridden with",
  "# --helm-values / --helm-set and friends.",
  "",
  "sshd:",
  "  enabled: false",
  "  # Defaults to the release namespace.",
  "  namespace: \"\"",
  "  image:",
  "    repository: docker.io/utkuozdemir/pv-migrate-sshd",
  "    tag: 1.1.0",
  "    pullPolicy: IfNotPresent",
  "  imagePullSecrets: []",
  "  podAnnotations: \x7b\x7d",
  "  podLabels: \x7b\x7d",
  "  securityContext:",
  "    capabilities:",
  "      add:",
  "        - SYS_CHROOT",
  "  resources: \x7b\x7d",
  "  nodeSelector: \x7b\x7d",
  "  tolerations: []",
  "  affinity: \x7b\x7d",
  "  nodeName: \"\"",
  "  # authorized_keys line",
  "  publicKey: \"\"",
  "  privateKeyMount: false",
  "  privateKey: \"\"",
  "  privateKeyMountPath: /tmp/id_ed25519",
  "  # - name: source",
  "  #   mountPath: /source",
  "  #   readOnly: true",
  "  pvcMounts: []",
  "  service:",
  "    type: ClusterIP",
  "    port: 22",
  "    nodePort: \"\"",
  "    annotations: \x7b\x7d",
  "",
  "rsync:",
  "  enabled: false",
  "  namespace: \"\"",
  "  image:",
  "    repository: docker.io/utkuozdemir/pv-migrate-rsync",
  "    tag: 1.0.0",
  "    pullPolicy: IfNotPresent",
  "  imagePullSecrets: []",
  "  podAnnotations: \x7b\x7d",
  "  podLabels: \x7b\x7d",
  "  securityContext: \x7b\x7d",
  "  resources: \x7b\x7d",
  "  nodeSelector: \x7b\x7d",
  "  tolerations: []",
  "  affinity: \x7b\x7d",
  "  nodeName: \"\"",
  "  privateKeyMount: false",
  "  privateKey: \"\"",
  "  privateKeyMountPath: /tmp/id_ed25519",
  "  sshRemoteHost: \"\"",
  "  sshRemotePort: 22",
  "  # rsync one-liner run inside the job",
  "  command: \"\"",
  "  maxRetries: 10",
  "  retryPeriodSeconds: 5",
  "  backoffLimit: 0",
  "  pvcMounts: []"]

/-- Files that helm leaves out of the chart. -/
def ignored : String := ofLines [
  ".DS_Store",
  "*.swp",
  "*.bak",
  "*.tmp"]

/-- Templates that the others include. -/
def helperTemplates : String := ofLines [
  "\x7b\x7b- define \"pv-migrate.labels\" -\x7d\x7d",
  "app.kubernetes.io/name: \x7b\x7b .Chart.Name \x7d\x7d",
  "app.kubernetes.io/instance: \x7b\x7b .Release.Name \x7d\x7d",
  "app.kubernetes.io/managed-by: \x7b\x7b .Release.Service \x7d\x7d",
  "helm.sh/chart: \x7b\x7b printf \"%s-%s\" .Chart.Name .Chart.Version | replace \"+\" \"_\" \x7d\x7d",
  "\x7b\x7b- end \x7d\x7d",
  "",
  "\x7b\x7b- define \"pv-migrate.sshd.namespace\" -\x7d\x7d",
  "\x7b\x7b .Values.sshd.namespace | default .Release.Namespace \x7d\x7d",
  "\x7b\x7b- end \x7d\x7d",
  "",
  "\x7b\x7b- define \"pv-migrate.rsync.namespace\" -\x7d\x7d",
  "\x7b\x7b .Values.rsync.namespace | default .Release.Namespace \x7d\x7d",
  "\x7b\x7b- end \x7d\x7d",
  "",
  "\x7b\x7b- define \"pv-migrate.sshd.selectorLabels\" -\x7d\x7d",
  "app.kubernetes.io/component: sshd",
  "app.kubernetes.io/instance: \x7b\x7b .Release.Name \x7d\x7d",
  "\x7b\x7b- end \x7d\x7d",
  "",
  "\x7b\x7b- define \"pv-migrate.rsync.selectorLabels\" -\x7d\x7d",
  "app.kubernetes.io/component: rsync",
  "app.kubernetes.io/instance: \x7b\x7b .Release.Name \x7d\x7d",
  "\x7b\x7b- end \x7d\x7d",
  "",
  "\x7b\x7b/* Volumes for a list of pvcMounts. */\x7d\x7d",
  "\x7b\x7b- define \"pv-migrate.pvcVolumes\" -\x7d\x7d",
  "\x7b\x7b- range $index, $mount := . \x7d\x7d",
  "- name: vol-\x7b\x7b $index \x7d\x7d",
  "  persistentVolumeClaim:",
  "    claimName: \x7b\x7b required \"pvcMounts[].name is required\" $mount.name \x7d\x7d",
  "    readOnly: \x7b\x7b $mount.readOnly | default false \x7d\x7d",
  "\x7b\x7b- end \x7d\x7d",
  "\x7b\x7b- end \x7d\x7d",
  "",
  "\x7b\x7b- define \"pv-migrate.pvcVolumeMounts\" -\x7d\x7d",
  "\x7b\x7b- range $index, $mount := . \x7d\x7d",
  "- name: vol-\x7b\x7b $index \x7d\x7d",
  "  mountPath: \x7b\x7b required \"pvcMounts[].mountPath is required\" $mount.mountPath \x7d\x7d",
  "  readOnly: \x7b\x7b $mount.readOnly | default false \x7d\x7d",
  "\x7b\x7b- end \x7d\x7d",
  "\x7b\x7b- end \x7d\x7d"]

/-- The keys of an sshd. -/
def sshdSecret : String := ofLines [
  "\x7b\x7b- if .Values.sshd.enabled \x7d\x7d",
  "apiVersion: v1",
  "kind: Secret",
  "metadata:",
  "  name: \x7b\x7b .Release.Name \x7d\x7d-sshd",
  "  namespace: \x7b\x7b include \"pv-migrate.sshd.namespace\" . \x7d\x7d",
  "  labels:",
  "    \x7b\x7b- include \"pv-migrate.labels\" . | nindent 4 \x7d\x7d",
  "    app.kubernetes.io/component: sshd",
  "type: Opaque",
  "data:",
  "  publicKey: \x7b\x7b required \"sshd.publicKey is required\" .Values.sshd.publicKey | b64enc \x7d\x7d",
  "  \x7b\x7b- if .Values.sshd.privateKeyMount \x7d\x7d",
  "  privateKey: \x7b\x7b required \"sshd.privateKey is required\" .Values.sshd.privateKey | b64enc \x7d\x7d",
  "  \x7b\x7b- end \x7d\x7d",
  "\x7b\x7b- end \x7d\x7d"]

/-- An sshd. -/
def sshdDeployment : String := ofLines [
  "\x7b\x7b- if .Values.sshd.enabled \x7d\x7d",
  "apiVersion: apps/v1",
  "kind: Deployment",
  "metadata:",
  "  name: \x7b\x7b .Release.Name \x7d\x7d-sshd",
  "  namespace: \x7b\x7b include \"pv-migrate.sshd.namespace\" . \x7d\x7d",
  "  labels:",
  "    \x7b\x7b- include \"pv-migrate.labels\" . | nindent 4 \x7d\x7d",
  "    app.kubernetes.io/component: sshd",
  "spec:",
  "  replicas: 1",
  "  strategy:",
  "    type: Recreate",
  "  selector:",
  "    matchLabels:",
  "      \x7b\x7b- include \"pv-migrate.sshd.selectorLabels\" . | nindent 6 \x7d\x7d",
  "  template:",
  "    metadata:",
  "      annotations:",
  "        checksum/secret: \x7b\x7b include (print $.Template.BasePath \"/sshd/secret.yaml\") . | sha256sum \x7d\x7d",
  "        \x7b\x7b- with .Values.sshd.podAnnotations \x7d\x7d",
  "        \x7b\x7b- toYaml . | nindent 8 \x7d\x7d",
  "        \x7b\x7b- end \x7d\x7d",
  "      labels:",
  "        \x7b\x7b- include \"pv-migrate.sshd.selectorLabels\" . | nindent 8 \x7d\x7d",
  "        \x7b\x7b- with .Values.sshd.podLabels \x7d\x7d",
  "        \x7b\x7b- toYaml . | nindent 8 \x7d\x7d",
  "        \x7b\x7b- end \x7d\x7d",
  "    spec:",
  "      \x7b\x7b- with .Values.sshd.imagePullSecrets \x7d\x7d",
  "      imagePullSecrets:",
  "        \x7b\x7b- toYaml . | nindent 8 \x7d\x7d",
  "      \x7b\x7b- end \x7d\x7d",
  "      \x7b\x7b- with .Values.sshd.nodeName \x7d\x7d",
  "      nodeName: \x7b\x7b . \x7d\x7d",
  "      \x7b\x7b- end \x7d\x7d",
  "      containers:",
  "        - name: sshd",
  "          image: \"\x7b\x7b .Values.sshd.image.repository \x7d\x7d:\x7b\x7b .Values.sshd.image.tag \x7d\x7d\"",
  "          imagePullPolicy: \x7b\x7b .Values.sshd.image.pullPolicy \x7d\x7d",
  "          \x7b\x7b- with .Values.sshd.securityContext \x7d\x7d",
  "          securityContext:",
  "            \x7b\x7b- toYaml . | nindent 12 \x7d\x7d",
  "          \x7b\x7b- end \x7d\x7d",
  "          ports:",
  "            - name: ssh",
  "              containerPort: 22",
  "              protocol: TCP",
  "          readinessProbe:",
  "            tcpSocket:",
  "              port: ssh",
  "            periodSeconds: 2",
  "          volumeMounts:",
  "            - name: keys",
  "              mountPath: /root/.ssh/authorized_keys",
  "              subPath: publicKey",
  "              readOnly: true",
  "            \x7b\x7b- if .Values.sshd.privateKeyMount \x7d\x7d",
  "            - name: keys",
  "              mountPath: \x7b\x7b .Values.sshd.privateKeyMountPath \x7d\x7d",
  "              subPath: privateKey",
  "              readOnly: true",
  "            \x7b\x7b- end \x7d\x7d",
  "            \x7b\x7b- include \"pv-migrate.pvcVolumeMounts\" .Values.sshd.pvcMounts | nindent 12 \x7d\x7d",
  "          \x7b\x7b- with .Values.sshd.resources \x7d\x7d",
  "          resources:",
  "            \x7b\x7b- toYaml . | nindent 12 \x7d\x7d",
  "          \x7b\x7b- end \x7d\x7d",
  "      volumes:",
  "        - name: keys",
  "          secret:",
  "            secretName: \x7b\x7b .Release.Name \x7d\x7d-sshd",
  "            defaultMode: 0400",
  "        \x7b\x7b- include \"pv-migrate.pvcVolumes\" .Values.sshd.pvcMounts | nindent 8 \x7d\x7d",
  "      \x7b\x7b- with .Values.sshd.nodeSelector \x7d\x7d",
  "      nodeSelector:",
  "        \x7b\x7b- toYaml . | nindent 8 \x7d\x7d",
  "      \x7b\x7b- end \x7d\x7d",
  "      \x7b\x7b- with .Values.sshd.affinity \x7d\x7d",
  "      affinity:",
  "        \x7b\x7b- toYaml . | nindent 8 \x7d\x7d",
  "      \x7b\x7b- end \x7d\x7d",
  "      \x7b\x7b- with .Values.sshd.tolerations \x7d\x7d",
  "      tolerations:",
  "        \x7b\x7b- toYaml . | nindent 8 \x7d\x7d",
  "      \x7b\x7b- end \x7d\x7d",
  "\x7b\x7b- end \x7d\x7d"]

/-- The service in front of an sshd. -/
def sshdService : String := ofLines [
  "\x7b\x7b- if .Values.sshd.enabled \x7d\x7d",
  "apiVersion: v1",
  "kind: Service",
  "metadata:",
  "  name: \x7b\x7b .Release.Name \x7d\x7d-sshd",
  "  namespace: \x7b\x7b include \"pv-migrate.sshd.namespace\" . \x7d\x7d",
  "  labels:",
  "    \x7b\x7b- include \"pv-migrate.labels\" . | nindent 4 \x7d\x7d",
  "    app.kubernetes.io/component: sshd",
  "  \x7b\x7b- with .Values.sshd.service.annotations \x7d\x7d",
  "  annotations:",
  "    \x7b\x7b- toYaml . | nindent 4 \x7d\x7d",
  "  \x7b\x7b- end \x7d\x7d",
  "spec:",
  "  type: \x7b\x7b .Values.sshd.service.type \x7d\x7d",
  "  ports:",
  "    - name: ssh",
  "      port: \x7b\x7b .Values.sshd.service.port \x7d\x7d",
  "      targetPort: ssh",
  "      protocol: TCP",
  "      \x7b\x7b- if and (eq .Values.sshd.service.type \"NodePort\") .Values.sshd.service.nodePort \x7d\x7d",
  "      nodePort: \x7b\x7b .Values.sshd.service.nodePort \x7d\x7d",
  "      \x7b\x7b- end \x7d\x7d",
  "  selector:",
  "    \x7b\x7b- include \"pv-migrate.sshd.selectorLabels\" . | nindent 4 \x7d\x7d",
  "\x7b\x7b- end \x7d\x7d"]

/-- The private key of an rsync job. -/
def rsyncSecret : String := ofLines [
  "\x7b\x7b- if and .Values.rsync.enabled .Values.rsync.privateKeyMount \x7d\x7d",
  "apiVersion: v1",
  "kind: Secret",
  "metadata:",
  "  name: \x7b\x7b .Release.Name \x7d\x7d-rsync",
  "  namespace: \x7b\x7b include \"pv-migrate.rsync.namespace\" . \x7d\x7d",
  "  labels:",
  "    \x7b\x7b- include \"pv-migrate.labels\" . | nindent 4 \x7d\x7d",
  "    app.kubernetes.io/component: rsync",
  "type: Opaque",
  "data:",
  "  privateKey: \x7b\x7b required \"rsync.privateKey is required\" .Values.rsync.privateKey | b64enc \x7d\x7d",
  "\x7b\x7b- end \x7d\x7d"]

/-- An rsync job. It tries the command again when a connection breaks. -/
def rsyncJob : String := ofLines [
  "\x7b\x7b- if .Values.rsync.enabled \x7d\x7d",
  "apiVersion: batch/v1",
  "kind: Job",
  "metadata:",
  "  name: \x7b\x7b .Release.Name \x7d\x7d-rsync",
  "  namespace: \x7b\x7b include \"pv-migrate.rsync.namespace\" . \x7d\x7d",
  "  labels:",
  "    \x7b\x7b- include \"pv-migrate.labels\" . | nindent 4 \x7d\x7d",
  "    app.kubernetes.io/component: rsync",
  "spec:",
  "  backoffLimit: \x7b\x7b .Values.rsync.backoffLimit \x7d\x7d",
  "  template:",
  "    metadata:",
  "      \x7b\x7b- with .Values.rsync.podAnnotations \x7d\x7d",
  "      annotations:",
  "        \x7b\x7b- toYaml . | nindent 8 \x7d\x7d",
  "      \x7b\x7b- end \x7d\x7d",
  "      labels:",
  "        \x7b\x7b- include \"pv-migrate.rsync.selectorLabels\" . | nindent 8 \x7d\x7d",
  "        \x7b\x7b- with .Values.rsync.podLabels \x7d\x7d",
  "        \x7b\x7b- toYaml . | nindent 8 \x7d\x7d",
  "        \x7b\x7b- end \x7d\x7d",
  "    spec:",
  "      restartPolicy: Never",
  "      \x7b\x7b- with .Values.rsync.imagePullSecrets \x7d\x7d",
  "      imagePullSecrets:",
  "        \x7b\x7b- toYaml . | nindent 8 \x7d\x7d",
  "      \x7b\x7b- end \x7d\x7d",
  "      \x7b\x7b- with .Values.rsync.nodeName \x7d\x7d",
  "      nodeName: \x7b\x7b . \x7d\x7d",
  "      \x7b\x7b- end \x7d\x7d",
  "      containers:",
  "        - name: rsync",
  "          image: \"\x7b\x7b .Values.rsync.image.repository \x7d\x7d:\x7b\x7b .Values.rsync.image.tag \x7d\x7d\"",
  "          imagePullPolicy: \x7b\x7b .Values.rsync.image.pullPolicy \x7d\x7d",
  "          \x7b\x7b- with .Values.rsync.securityContext \x7d\x7d",
  "          securityContext:",
  "            \x7b\x7b- toYaml . | nindent 12 \x7d\x7d",
  "          \x7b\x7b- end \x7d\x7d",
  "          command:",
  "            - sh",
  "            - -c",
  "            - |",
  "              set -u",
  "              \x7b\x7b- if .Values.rsync.privateKeyMount \x7d\x7d",
  "              mkdir -p /root/.ssh",
  "              cp \x7b\x7b .Values.rsync.privateKeyMountPath \x7d\x7d /root/.ssh/\x7b\x7b base .Values.rsync.privateKeyMountPath \x7d\x7d",
  "              chmod 600 /root/.ssh/\x7b\x7b base .Values.rsync.privateKeyMountPath \x7d\x7d",
  "              \x7b\x7b- end \x7d\x7d",
  "              n=0",
  "              rc=1",
  "              retries=\x7b\x7b .Values.rsync.maxRetries \x7d\x7d",
  "              until [ \"$n\" -ge \"$retries\" ]",
  "              do",
  "                \x7b\x7b required \"rsync.command is required\" .Values.rsync.command \x7d\x7d && rc=0 && break",
  "                rc=$?",
  "                n=$((n+1))",
  "                echo \"rsync attempt $n/$retries failed, waiting \x7b\x7b .Values.rsync.retryPeriodSeconds \x7d\x7d seconds before trying again\"",
  "                sleep \x7b\x7b .Values.rsync.retryPeriodSeconds \x7d\x7d",
  "              done",
  "              exit $rc",
  "          volumeMounts:",
  "            \x7b\x7b- if .Values.rsync.privateKeyMount \x7d\x7d",
  "            - name: keys",
  "              mountPath: \x7b\x7b .Values.rsync.privateKeyMountPath \x7d\x7d",
  "              subPath: privateKey",
  "              readOnly: true",
  "            \x7b\x7b- end \x7d\x7d",
  "            \x7b\x7b- include \"pv-migrate.pvcVolumeMounts\" .Values.rsync.pvcMounts | nindent 12 \x7d\x7d",
  "          \x7b\x7b- with .Values.rsync.resources \x7d\x7d",
  "          resources:",
  "            \x7b\x7b- toYaml . | nindent 12 \x7d\x7d",
  "          \x7b\x7b- end \x7d\x7d",
  "      volumes:",
  "        \x7b\x7b- if .Values.rsync.privateKeyMount \x7d\x7d",
  "        - name: keys",
  "          secret:",
  "            secretName: \x7b\x7b .Release.Name \x7d\x7d-rsync",
  "            defaultMode: 0400",
  "        \x7b\x7b- end \x7d\x7d",
  "        \x7b\x7b- include \"pv-migrate.pvcVolumes\" .Values.rsync.pvcMounts | nindent 8 \x7d\x7d",
  "      \x7b\x7b- with .Values.rsync.nodeSelector \x7d\x7d",
  "      nodeSelector:",
  "        \x7b\x7b- toYaml . | nindent 8 \x7d\x7d",
  "      \x7b\x7b- end \x7d\x7d",
  "      \x7b\x7b- with .Values.rsync.affinity \x7d\x7d",
  "      affinity:",
  "        \x7b\x7b- toYaml . | nindent 8 \x7d\x7d",
  "      \x7b\x7b- end \x7d\x7d",
  "      \x7b\x7b- with .Values.rsync.tolerations \x7d\x7d",
  "      tolerations:",
  "        \x7b\x7b- toYaml . | nindent 8 \x7d\x7d",
  "      \x7b\x7b- end \x7d\x7d",
  "\x7b\x7b- end \x7d\x7d"]

/-- The files of the chart, each with its place. -/
def files : List (String × String) := [
  ("Chart.yaml", metadata),
  ("values.yaml", defaults),
  (".helmignore", ignored),
  ("templates/_helpers.tpl", helperTemplates),
  ("templates/sshd/secret.yaml", sshdSecret),
  ("templates/sshd/deployment.yaml", sshdDeployment),
  ("templates/sshd/service.yaml", sshdService),
  ("templates/rsync/secret.yaml", rsyncSecret),
  ("templates/rsync/job.yaml", rsyncJob)]

/-- Whether the unpacked files are left behind. They go with the migration, after its last step and
whatever its outcome, so no step of a run depends on it. -/
def isKept : Bool := false

end VolumeMigration.Helm.Chart
